import HandleBridge.Store
import Mathlib.Data.Finset.Card
import Mathlib.Data.Finset.Range

/-
  The slot table of a store, seen place by place.

  A place is occupied, vacant and free for the next instance, or vacant for good. `WellFormed`
  says how the free list and the two counters go with that. On a well-formed store every
  operation changes at most one place, and the three relations `Issues`, `Changes` and `Ends`
  say all that it does. Later files use these relations and open no operation again.

  Proved:
  * `lookup_eq_some_iff`, `mem_entries`: looking up and listing both read the table.
  * `insert_ok`, `insert_error`: an insertion issues a handle or leaves the store as it was.
  * `update_ok`, `remove_ok`: what the two do to a live instance.
-/

namespace HandleBridge.Store

variable {α β : Type} {s t : Store α} {i j g : Nat} {h : Handle} {v : α}

/-! ## Reading the table -/

/-- The places with an instance. -/
def occupiedSlots (s : Store α) : Finset Nat :=
  (Finset.range s.capacity).filter fun i => (s.slots[i]?.bind Slot.value).isSome

/-- The vacant places that are not in the free list. No instance will ever take them again. -/
def retiredSlots (s : Store α) : Finset Nat :=
  (Finset.range s.capacity).filter fun i => (s.slots[i]?.bind Slot.value).isNone ∧ i ∉ s.free

theorem lt_capacity_of_getElem? {slot : Slot α} (e : s.slots[i]? = some slot) :
    i < s.capacity := by
  obtain ⟨hi, -⟩ := Array.getElem?_eq_some_iff.1 e
  exact hi

theorem mem_occupiedSlots : i ∈ s.occupiedSlots ↔ ∃ g v, s.slots[i]? = some ⟨g, some v⟩ := by
  simp only [occupiedSlots, Finset.mem_filter, Finset.mem_range]
  constructor
  · rintro ⟨-, ho⟩
    obtain ⟨v, hv⟩ := Option.isSome_iff_exists.1 ho
    obtain ⟨⟨g, o⟩, he, rfl⟩ := Option.bind_eq_some_iff.1 hv
    exact ⟨g, v, he⟩
  · rintro ⟨g, v, he⟩
    exact ⟨lt_capacity_of_getElem? he, by rw [he]; rfl⟩

theorem mem_retiredSlots :
    i ∈ s.retiredSlots ↔ i ∉ s.free ∧ ∃ g, s.slots[i]? = some ⟨g, none⟩ := by
  simp only [retiredSlots, Finset.mem_filter, Finset.mem_range]
  constructor
  · rintro ⟨hi, hn, hf⟩
    have he : s.slots[i]? = some s.slots[i] := Array.getElem?_eq_getElem hi
    rw [he] at hn
    refine ⟨hf, s.slots[i].generation, ?_⟩
    rw [he, ← Option.isNone_iff_eq_none.1 hn]
    rfl
  · rintro ⟨hf, g, he⟩
    exact ⟨lt_capacity_of_getElem? he, by rw [he]; rfl, hf⟩

theorem lookup_eq_some_iff {raw : UInt32} :
    s.lookup raw = some (h, v) ↔
      Handle.ofRaw? raw = some h ∧ s.slots[h.slot]? = some ⟨h.generation, some v⟩ := by
  unfold lookup
  cases hr : Handle.ofRaw? raw with
  | none => simp
  | some k =>
    simp only [Option.some.injEq]
    cases hk : s.slots[k.slot]? with
    | none =>
      simp only [reduceCtorEq, false_iff, not_and]
      rintro rfl
      simp [hk]
    | some slot =>
      obtain ⟨g, o⟩ := slot
      simp only
      by_cases hg : g = k.generation
      · rw [if_pos hg, Option.map_eq_some_iff]
        constructor
        · rintro ⟨w, rfl, e⟩
          cases e
          exact ⟨rfl, by rw [hk, hg]⟩
        · rintro ⟨rfl, e⟩
          rw [hk] at e
          cases e
          exact ⟨v, rfl, rfl⟩
      · rw [if_neg hg]
        simp only [reduceCtorEq, false_iff, not_and]
        rintro rfl e
        rw [hk] at e
        cases e
        exact hg rfl

theorem lookup_raw_eq_some_iff :
    s.lookup h.raw = some (h, v) ↔ s.slots[h.slot]? = some ⟨h.generation, some v⟩ := by
  rw [lookup_eq_some_iff, Handle.ofRaw?_raw]
  simp

theorem raw_of_lookup {raw : UInt32} (e : s.lookup raw = some (h, v)) : h.raw = raw :=
  Handle.raw_ofRaw? (lookup_eq_some_iff.1 e).1

theorem eq_of_lookup_raw {k : Handle} (e : s.lookup h.raw = some (k, v)) : k = h := by
  have hr := (lookup_eq_some_iff.1 e).1
  rw [Handle.ofRaw?_raw] at hr
  exact (Option.some.inj hr).symm

theorem entryOf_eq_some_iff {slot : Slot α} :
    entryOf slot i = some (h, v) ↔ h.slot = i ∧ slot = ⟨h.generation, some v⟩ := by
  obtain ⟨g, o⟩ := slot
  unfold entryOf
  cases o with
  | none => simp
  | some w =>
    cases hn : Handle.new? i g with
    | none =>
      simp only [reduceCtorEq, false_iff, not_and]
      rintro rfl e
      cases e
      rw [Handle.new?_eq_some_iff.2 ⟨rfl, rfl⟩] at hn
      cases hn
    | some k =>
      obtain ⟨rfl, rfl⟩ := Handle.new?_eq_some_iff.1 hn
      simp only [Option.some.injEq, Prod.mk.injEq, Slot.mk.injEq]
      constructor
      · rintro ⟨rfl, rfl⟩
        exact ⟨rfl, rfl, rfl⟩
      · rintro ⟨hs, hg, rfl⟩
        have e : Handle.new? k.slot k.generation = some h := Handle.new?_eq_some_iff.2 ⟨hs, hg.symm⟩
        rw [hn] at e
        exact ⟨Option.some.inj e, rfl⟩

theorem mem_entries : (h, v) ∈ s.entries ↔ s.slots[h.slot]? = some ⟨h.generation, some v⟩ := by
  unfold entries
  rw [List.mem_filterMap]
  constructor
  · rintro ⟨⟨slot, i⟩, hm, he⟩
    obtain ⟨rfl, rfl⟩ := entryOf_eq_some_iff.1 he
    rw [List.mk_mem_zipIdx_iff_getElem?, Array.getElem?_toList] at hm
    exact hm
  · intro e
    refine ⟨(⟨h.generation, some v⟩, h.slot), ?_, entryOf_eq_some_iff.2 ⟨rfl, rfl⟩⟩
    rw [List.mk_mem_zipIdx_iff_getElem?, Array.getElem?_toList]
    exact e

theorem mem_handles : h ∈ s.handles ↔ ∃ v, s.slots[h.slot]? = some ⟨h.generation, some v⟩ := by
  unfold handles
  rw [List.mem_map]
  constructor
  · rintro ⟨⟨k, v⟩, hm, rfl⟩
    exact ⟨v, mem_entries.1 hm⟩
  · rintro ⟨v, hv⟩
    exact ⟨(h, v), mem_entries.2 hv, rfl⟩

/-! ## The invariant -/

/-- How the slot table, the free list and the counters of a store go together. The generation
alone does not tell whether a vacant place may be taken once more; the free list does. -/
structure WellFormed (s : Store α) : Prop where
  capacity_le : s.capacity ≤ maxSlots
  generation_le : ∀ {i g : Nat} {o : Option α}, s.slots[i]? = some ⟨g, o⟩ → g ≤ maxGeneration
  free_nodup : s.free.Nodup
  vacant_of_free : ∀ {i : Nat}, i ∈ s.free → ∃ g, s.slots[i]? = some ⟨g, none⟩
  spent_of_not_free : ∀ {i g : Nat}, s.slots[i]? = some ⟨g, none⟩ → i ∉ s.free → g = maxGeneration
  live_eq : s.live = s.occupiedSlots.card
  retired_eq : s.retired = s.retiredSlots.card
  total_eq : s.live + s.retired + s.free.length = s.capacity

/-! ## What an operation does to the table -/

/-- `t` has `slot` at place `i` and is like `s` in all other places. -/
def Placed (s t : Store α) (i : Nat) (slot : Slot α) : Prop :=
  ∀ j, t.slots[j]? = if j = i then some slot else s.slots[j]?

theorem Placed.same {slot : Slot α} (p : s.Placed t i slot) : t.slots[i]? = some slot := by
  rw [p i, if_pos rfl]

theorem Placed.other {slot : Slot α} (p : s.Placed t i slot) (hj : j ≠ i) :
    t.slots[j]? = s.slots[j]? := by
  rw [p j, if_neg hj]

theorem placed_modify {slot : Slot α} (f : Slot α → Slot α) (e : s.slots[i]? = some slot)
    (ht : t.slots = s.slots.modify i f) : s.Placed t i (f slot) := by
  intro j
  rw [ht, Array.getElem?_modify]
  by_cases hj : j = i
  · rw [if_pos hj.symm, if_pos hj, hj, e]
    rfl
  · rw [if_neg (Ne.symm hj), if_neg hj]

theorem placed_push {slot : Slot α} (ht : t.slots = s.slots.push slot) :
    s.Placed t s.capacity slot := by
  intro j
  rw [ht, Array.getElem?_push]
  rfl

/-- `t` is `s` after `v` was taken in under the fresh handle `h`: in the place on top of the
free list, or in a new place if that list is empty. -/
structure Issues (s : Store α) (h : Handle) (v : α) (t : Store α) : Prop where
  room : s.live < s.limit.max
  placed : s.Placed t h.slot ⟨h.generation, some v⟩
  chosen : (s.slots[h.slot]? = some ⟨h.generation, none⟩ ∧ s.free = h.slot :: t.free ∧
      t.capacity = s.capacity) ∨
    (s.free = [] ∧ t.free = [] ∧ h.slot = s.capacity ∧ h.generation = 0 ∧
      t.capacity = s.capacity + 1)
  live_eq : t.live = s.live + 1
  retired_eq : t.retired = s.retired
  limit_eq : t.limit = s.limit

/-- `t` is `s` with `w` in the place of the live instance `v` of the handle `h`. -/
structure Changes (s : Store α) (h : Handle) (v w : α) (t : Store α) : Prop where
  occupied : s.slots[h.slot]? = some ⟨h.generation, some v⟩
  placed : s.Placed t h.slot ⟨h.generation, some w⟩
  capacity_eq : t.capacity = s.capacity
  free_eq : t.free = s.free
  live_eq : t.live = s.live
  retired_eq : t.retired = s.retired
  limit_eq : t.limit = s.limit

/-- `t` is `s` after the life of `v` under the handle `h` ended: its place is retired or goes on
top of the free list with the next generation. -/
structure Ends (s : Store α) (h : Handle) (v : α) (t : Store α) : Prop where
  occupied : s.slots[h.slot]? = some ⟨h.generation, some v⟩
  vacated : (h.generation = maxGeneration ∧ s.Placed t h.slot ⟨h.generation, none⟩ ∧
      t.free = s.free ∧ t.retired = s.retired + 1) ∨
    (h.generation ≠ maxGeneration ∧ s.Placed t h.slot ⟨h.generation + 1, none⟩ ∧
      t.free = h.slot :: s.free ∧ t.retired = s.retired)
  capacity_eq : t.capacity = s.capacity
  live_eq : t.live = s.live - 1
  limit_eq : t.limit = s.limit

theorem insert_of_full {heap : Allocator} (hl : s.limit.max ≤ s.live) :
    s.insert heap v = .failed s.exhausted s [] := by
  unfold insert
  rw [if_pos hl]

theorem insert_of_free {heap : Allocator} {rest : List Nat} (hs : s.WellFormed)
    (hl : ¬ s.limit.max ≤ s.live) (hf : s.free = i :: rest) :
    ∃ h, (s.insert heap v).result = .ok h ∧ s.Issues h v (s.insert heap v).state := by
  obtain ⟨g, he⟩ := hs.vacant_of_free (by rw [hf]; exact List.mem_cons_self)
  have hi : i < maxSlots := Nat.lt_of_lt_of_le (lt_capacity_of_getElem? he) hs.capacity_le
  have hg : s.generationAt i = g := by
    unfold generationAt
    rw [he]
  have hn : Handle.new? i g = some ⟨i, g, hi, hs.generation_le he⟩ :=
    Handle.new?_eq_some_iff.2 ⟨rfl, rfl⟩
  unfold insert
  rw [if_neg hl, hf]
  simp only [hg, hn]
  exact ⟨_, rfl, Nat.lt_of_not_le hl, placed_modify (Slot.fill v) he rfl,
    Or.inl ⟨he, hf, Array.size_modify⟩, rfl, rfl, rfl⟩

theorem insert_of_no_free {heap : Allocator} (hl : ¬ s.limit.max ≤ s.live) (hf : s.free = []) :
    (∃ h, (s.insert heap v).result = .ok h ∧ s.Issues h v (s.insert heap v).state) ∨
      ∃ cause, s.insert heap v = .failed cause s [] := by
  unfold insert
  rw [if_neg hl, hf]
  cases hn : Handle.new? s.slots.size 0 with
  | none => exact Or.inr ⟨_, rfl⟩
  | some h =>
    obtain ⟨hs, hg⟩ := Handle.new?_eq_some_iff.1 hn
    by_cases hm : s.mayGrow heap
    · simp only [hm, if_true]
      refine Or.inl ⟨h, rfl, Nat.lt_of_not_le hl, ?_, ?_, rfl, rfl, rfl⟩
      · rw [hs, hg]
        exact placed_push rfl
      · exact Or.inr ⟨hf, rfl, hs, hg, Array.size_push _⟩
    · simp only [hm]
      exact Or.inr ⟨_, rfl⟩

theorem insert_cases (hs : s.WellFormed) (heap : Allocator) (v : α) :
    (∃ h, (s.insert heap v).result = .ok h ∧ s.Issues h v (s.insert heap v).state) ∨
      ∃ cause, s.insert heap v = .failed cause s [] := by
  by_cases hl : s.limit.max ≤ s.live
  · exact Or.inr ⟨_, insert_of_full hl⟩
  · cases hf : s.free with
    | nil => exact insert_of_no_free hl hf
    | cons i rest => exact Or.inl (insert_of_free hs hl hf)

theorem insert_ok {heap : Allocator} (hs : s.WellFormed) (e : (s.insert heap v).result = .ok h) :
    s.Issues h v (s.insert heap v).state := by
  rcases insert_cases hs heap v with ⟨k, hk, hi⟩ | ⟨cause, hc⟩
  · rw [hk] at e
    cases e
    exact hi
  · rw [hc] at e
    cases e

theorem insert_error {heap : Allocator} {cause : Fault} (hs : s.WellFormed)
    (e : (s.insert heap v).result = .error cause) : s.insert heap v = .failed cause s [] := by
  rcases insert_cases hs heap v with ⟨k, hk, -⟩ | ⟨c, hc⟩
  · rw [hk] at e
    cases e
  · rw [hc] at e
    cases e
    exact hc

theorem set_of_lookup {raw : UInt32} (e : s.lookup raw = some (h, v)) (w : α) :
    s.Changes h v w (s.set raw w) := by
  have ho := (lookup_eq_some_iff.1 e).2
  unfold set
  rw [e]
  exact ⟨ho, placed_modify (Slot.fill w) ho rfl, Array.size_modify, rfl, rfl, rfl, rfl⟩

theorem set_self {raw : UInt32} (e : s.lookup raw = some (h, v)) : s.set raw v = s := by
  have hc := set_of_lookup e v
  have hs : (s.set raw v).slots = s.slots := by
    refine Array.ext_getElem? fun j => ?_
    rw [hc.placed j]
    split
    · rename_i hj
      rw [hj, hc.occupied]
    · rfl
  unfold set at hs ⊢
  rw [e] at hs ⊢
  dsimp only at hs ⊢
  rw [hs]

theorem update_ok {raw : UInt32} (e : s.lookup raw = some (h, v)) (f : α → β × α) :
    s.update raw f = .ok (f v).1 (s.set raw (f v).2) [] := by
  unfold update
  rw [e]

theorem update_error {raw : UInt32} (e : s.lookup raw = none) (f : α → β × α) :
    s.update raw f = .failed (.invalidHandle raw) s [] := by
  unfold update
  rw [e]

theorem remove_ok {raw : UInt32} (e : s.lookup raw = some (h, v)) :
    (s.remove raw).result = .ok v ∧ s.Ends h v (s.remove raw).state := by
  have ho := (lookup_eq_some_iff.1 e).2
  unfold remove
  simp only [e]
  by_cases hg : h.generation = maxGeneration
  · rw [if_pos hg]
    refine ⟨rfl, ho, Or.inl ⟨hg, ?_, rfl, rfl⟩, Array.size_modify, rfl, rfl⟩
    exact placed_modify Slot.retire ho rfl
  · rw [if_neg hg]
    refine ⟨rfl, ho, Or.inr ⟨hg, ?_, rfl, rfl⟩, Array.size_modify, rfl, rfl⟩
    exact placed_modify Slot.vacate ho rfl

theorem remove_error {raw : UInt32} (e : s.lookup raw = none) :
    s.remove raw = .failed (.invalidHandle raw) s [] := by
  unfold remove
  rw [e]

end HandleBridge.Store
