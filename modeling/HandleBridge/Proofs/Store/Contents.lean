import HandleBridge.Proofs.Store.Runs
import Mathlib.Data.Finmap
import Mathlib.Data.Finset.Dedup

/-
  A store is a finite map from raw handles to instances.

  `contents` reads the map off the slot table. A word is looked up in the store by slot and
  generation, in the map by its value alone; `lookup_contents` says that both find the same. An
  operation changes one place, and no two generations of a place are live together, so it
  changes the map at one key (`lookup_contents_of_ne`).

  Proved:
  * `contents_of_issues`, `contents_of_changes`, `contents_remove`, `contents_clear`: what the
    operations do to the map.
  * `pairwise_slot_entries`, `card_keys_contents`: the listing is in slot order, and `live` is
    the number of keys.
  * `refines_finite_map`: all of it, in every state that a run reaches.
-/

namespace HandleBridge.Store

variable {α : Type} {s t : Store α} {h : Handle} {v w : α} {raw x : UInt32}

/-! ## The map of a store -/

/-- The instances of a store by the raw forms of their handles. -/
def contents (s : Store α) : Finmap fun _ : UInt32 => α :=
  (s.entries.map fun e => (⟨e.1.raw, e.2⟩ : Σ _ : UInt32, α)).toFinmap

theorem pairwise_slot_entries (s : Store α) :
    (s.entries.map fun e => e.1.slot).Pairwise (· < ·) := by
  have hz : s.slots.toList.zipIdx.Pairwise fun p q => p.2 < q.2 := by
    rw [← List.pairwise_map (f := Prod.snd), List.zipIdx_map_snd]
    exact List.pairwise_lt_range'
  rw [List.pairwise_map]
  refine hz.filterMap _ ?_
  rintro ⟨slot, i⟩ ⟨slot', j⟩ hij ⟨h, v⟩ hv ⟨k, w⟩ hw
  obtain ⟨rfl, -⟩ := entryOf_eq_some_iff.1 hv
  obtain ⟨rfl, -⟩ := entryOf_eq_some_iff.1 hw
  exact hij

theorem nodup_raw_entries (s : Store α) : (s.entries.map fun e => e.1.raw).Nodup := by
  have hs := pairwise_slot_entries s
  rw [List.pairwise_map] at hs
  refine List.pairwise_map.2 (hs.imp ?_)
  intro a b hlt e
  rw [Handle.raw_inj.1 e] at hlt
  exact Nat.lt_irrefl _ hlt

theorem lookup_contents (s : Store α) (raw : UInt32) :
    s.contents.lookup raw = (s.lookup raw).map Prod.snd := by
  have hn : (s.entries.map fun e => (⟨e.1.raw, e.2⟩ : Σ _ : UInt32, α)).NodupKeys := by
    rw [List.NodupKeys, List.keys, List.map_map]
    exact nodup_raw_entries s
  ext v
  rw [contents, Finmap.dlookup_list_toFinmap, ← Option.mem_def, List.mem_dlookup_iff hn,
    List.mem_map, Option.map_eq_some_iff]
  constructor
  · rintro ⟨⟨h, w⟩, hm, e⟩
    cases e
    exact ⟨(h, w), lookup_raw_eq_some_iff.2 (mem_entries.1 hm), rfl⟩
  · rintro ⟨⟨h, w⟩, e, rfl⟩
    obtain rfl := raw_of_lookup e
    exact ⟨(h, w), mem_entries.2 (lookup_raw_eq_some_iff.1 e), rfl⟩

theorem lookup_contents_eq_some_iff :
    s.contents.lookup x = some v ↔ ∃ h, s.lookup x = some (h, v) := by
  rw [lookup_contents, Option.map_eq_some_iff]
  constructor
  · rintro ⟨⟨h, w⟩, e, rfl⟩
    exact ⟨h, e⟩
  · rintro ⟨h, e⟩
    exact ⟨(h, v), e, rfl⟩

theorem lookup_contents_raw :
    s.contents.lookup h.raw = some v ↔ s.slots[h.slot]? = some ⟨h.generation, some v⟩ := by
  rw [lookup_contents_eq_some_iff, ← lookup_raw_eq_some_iff]
  constructor
  · rintro ⟨k, e⟩
    obtain rfl := eq_of_lookup_raw e
    exact e
  · intro e
    exact ⟨h, e⟩

theorem lookup_contents_iff_mem_entries :
    s.contents.lookup raw = some v ↔ ∃ h, h.raw = raw ∧ (h, v) ∈ s.entries := by
  rw [lookup_contents_eq_some_iff]
  refine exists_congr fun h => ?_
  rw [mem_entries, ← lookup_raw_eq_some_iff]
  constructor
  · intro e
    obtain rfl := raw_of_lookup e
    exact ⟨rfl, e⟩
  · rintro ⟨rfl, e⟩
    exact e

theorem lookup_eq_none_iff : s.lookup x = none ↔ x ∉ s.contents := by
  rw [← Finmap.lookup_eq_none, lookup_contents, Option.map_eq_none_iff]

/-- A step that changes the table at one place only, where nothing but `h` is live before and
after, changes the map at one key only. -/
theorem lookup_contents_of_ne (hother : ∀ j, j ≠ h.slot → t.slots[j]? = s.slots[j]?)
    (hs : ∀ g w, s.slots[h.slot]? = some ⟨g, some w⟩ → g = h.generation)
    (ht : ∀ g w, t.slots[h.slot]? = some ⟨g, some w⟩ → g = h.generation) (hx : x ≠ h.raw) :
    t.contents.lookup x = s.contents.lookup x := by
  ext v
  rw [lookup_contents_eq_some_iff, lookup_contents_eq_some_iff]
  refine exists_congr fun k => ?_
  rw [lookup_eq_some_iff, lookup_eq_some_iff]
  refine and_congr_right fun hk => ?_
  have hne : k.slot = h.slot → k.generation ≠ h.generation := by
    intro e hg
    have hkh : k = h := by
      cases k
      cases h
      cases e
      cases hg
      rfl
    exact hx (by rw [← hkh]; exact (Handle.raw_ofRaw? hk).symm)
  by_cases e : k.slot = h.slot
  · rw [e]
    exact ⟨fun hv => absurd (ht _ _ hv) (hne e), fun hv => absurd (hs _ _ hv) (hne e)⟩
  · rw [hother _ e]

/-! ## What the operations do to the map -/

theorem contents_empty (limit : StoreLimit) (slotBytes : Nat) :
    (empty limit slotBytes : Store α).contents = ∅ := rfl

theorem Issues.not_mem_contents (e : s.Issues h v t) : h.raw ∉ s.contents := by
  rw [← Finmap.lookup_eq_none]
  cases hl : s.contents.lookup h.raw with
  | none => rfl
  | some w =>
    exact absurd (mem_occupiedSlots.2 ⟨_, _, lookup_contents_raw.1 hl⟩) e.not_mem_occupiedSlots

/-- An instance that comes to a place where nothing else is live changes the map at its handle. -/
theorem contents_of_placed (p : s.Placed t h.slot ⟨h.generation, some w⟩)
    (hs : ∀ g v, s.slots[h.slot]? = some ⟨g, some v⟩ → g = h.generation) :
    t.contents = s.contents.insert h.raw w := by
  refine Finmap.ext_lookup fun x => ?_
  by_cases hx : x = h.raw
  · rw [hx, Finmap.lookup_insert]
    exact lookup_contents_raw.2 p.same
  · rw [Finmap.lookup_insert_of_ne _ hx]
    refine lookup_contents_of_ne (fun j hj => p.other hj) hs ?_ hx
    intro g v hv
    rw [p.same] at hv
    cases hv
    rfl

theorem contents_of_issues (e : s.Issues h v t) : t.contents = s.contents.insert h.raw v :=
  contents_of_placed e.placed fun g w hw =>
    absurd (mem_occupiedSlots.2 ⟨g, w, hw⟩) e.not_mem_occupiedSlots

theorem contents_of_changes (e : s.Changes h v w t) : t.contents = s.contents.insert h.raw w := by
  refine contents_of_placed e.placed fun g v' hv => ?_
  rw [e.occupied] at hv
  cases hv
  rfl

theorem contents_set (e : s.contents.lookup raw = some v) (w : α) :
    (s.set raw w).contents = s.contents.insert raw w := by
  obtain ⟨h, e⟩ := lookup_contents_eq_some_iff.1 e
  rw [contents_of_changes (set_of_lookup e w), raw_of_lookup e]

theorem set_contents_self (e : s.contents.lookup raw = some v) : s.set raw v = s := by
  obtain ⟨h, e⟩ := lookup_contents_eq_some_iff.1 e
  exact set_self e

theorem WellFormed.after_set (hs : s.WellFormed) (e : s.contents.lookup raw = some v) (w : α) :
    (s.set raw w).WellFormed := by
  obtain ⟨h, e⟩ := lookup_contents_eq_some_iff.1 e
  exact hs.of_changes (set_of_lookup e w)

theorem contents_of_ends (e : s.Ends h v t) : t.contents = s.contents.erase h.raw := by
  obtain ⟨g, hg⟩ := e.vacant
  have ht : ∀ g w, t.slots[h.slot]? ≠ some ⟨g, some w⟩ := by
    intro g' w hw
    rw [hg] at hw
    cases hw
  refine Finmap.ext_lookup fun x => ?_
  by_cases hx : x = h.raw
  · rw [hx, Finmap.lookup_erase]
    cases hl : t.contents.lookup h.raw with
    | none => rfl
    | some w => exact absurd (lookup_contents_raw.1 hl) (ht _ _)
  · rw [Finmap.lookup_erase_ne hx]
    refine lookup_contents_of_ne (fun j hj => (e.other hj).1) ?_ ?_ hx
    · intro g w hw
      rw [e.occupied] at hw
      cases hw
      rfl
    · exact fun g w hw => absurd hw (ht g w)

theorem erase_of_not_mem {m : Finmap fun _ : UInt32 => α} (hx : x ∉ m) : m.erase x = m := by
  refine Finmap.ext_lookup fun y => ?_
  by_cases hy : y = x
  · rw [hy, Finmap.lookup_erase, Finmap.lookup_eq_none.2 hx]
  · rw [Finmap.lookup_erase_ne hy]

theorem contents_remove (s : Store α) (raw : UInt32) :
    (s.remove raw).state.contents = s.contents.erase raw := by
  cases e : s.lookup raw with
  | none =>
    rw [remove_error e, erase_of_not_mem (lookup_eq_none_iff.1 e)]
    rfl
  | some p =>
    obtain ⟨h, v⟩ := p
    rw [contents_of_ends (remove_ok e).2, raw_of_lookup e]

theorem mem_contents_removeAll (hs : List Handle) (s : Store α) :
    x ∈ (removeAll hs s).1.contents ↔ x ∈ s.contents ∧ x ∉ hs.map Handle.raw := by
  induction hs generalizing s with
  | nil => simp [removeAll]
  | cons h hs ih =>
    rw [removeAll_cons, ih, contents_remove, Finmap.mem_erase, List.map_cons, List.mem_cons]
    tauto

theorem mem_contents_iff : x ∈ s.contents ↔ ∃ h ∈ s.handles, h.raw = x := by
  rw [Finmap.mem_iff]
  constructor
  · rintro ⟨v, e⟩
    obtain ⟨h, e⟩ := lookup_contents_eq_some_iff.1 e
    exact ⟨h, mem_handles.2 ⟨v, (lookup_eq_some_iff.1 e).2⟩, raw_of_lookup e⟩
  · rintro ⟨h, hm, rfl⟩
    obtain ⟨v, hv⟩ := mem_handles.1 hm
    exact ⟨v, lookup_contents_raw.2 hv⟩

theorem eq_empty_of_forall_not_mem {m : Finmap fun _ : UInt32 => α} (hm : ∀ x, x ∉ m) :
    m = ∅ := by
  refine Finmap.ext_lookup fun x => ?_
  rw [Finmap.lookup_eq_none.2 (hm x), Finmap.lookup_empty]

theorem contents_clear (s : Store α) : s.clear.state.contents = ∅ := by
  refine eq_empty_of_forall_not_mem fun x hx => ?_
  obtain ⟨hx, hn⟩ := (mem_contents_removeAll s.handles s).1 hx
  obtain ⟨h, hm, rfl⟩ := mem_contents_iff.1 hx
  exact hn (List.mem_map_of_mem hm)

/-! ## Counting and listing -/

theorem keys_contents (s : Store α) :
    s.contents.keys = (s.entries.map fun e => e.1.raw).toFinset := by
  ext x
  rw [Finmap.mem_keys, mem_contents_iff, List.mem_toFinset, handles, List.mem_map]
  constructor
  · rintro ⟨h, hm, rfl⟩
    obtain ⟨e, he, rfl⟩ := List.mem_map.1 hm
    exact ⟨e, he, rfl⟩
  · rintro ⟨e, he, rfl⟩
    exact ⟨e.1, List.mem_map_of_mem he, rfl⟩

theorem WellFormed.occupiedSlots_eq (hs : s.WellFormed) :
    s.occupiedSlots = (s.entries.map fun e => e.1.slot).toFinset := by
  ext i
  rw [mem_occupiedSlots, List.mem_toFinset, List.mem_map]
  constructor
  · rintro ⟨g, v, e⟩
    obtain ⟨h, hh⟩ := hs.exists_handle e
    obtain ⟨rfl, rfl⟩ := Handle.new?_eq_some_iff.1 hh
    exact ⟨(h, v), mem_entries.2 e, rfl⟩
  · rintro ⟨⟨h, v⟩, hm, rfl⟩
    exact ⟨h.generation, v, mem_entries.1 hm⟩

theorem WellFormed.length_entries (hs : s.WellFormed) : s.entries.length = s.live := by
  have hn : (s.entries.map fun e => e.1.slot).Nodup :=
    (pairwise_slot_entries s).imp Nat.ne_of_lt
  rw [hs.live_eq, hs.occupiedSlots_eq, List.toFinset_card_of_nodup hn, List.length_map]

theorem WellFormed.card_keys_contents (hs : s.WellFormed) : s.contents.keys.card = s.live := by
  rw [keys_contents, List.toFinset_card_of_nodup (nodup_raw_entries s), List.length_map,
    hs.length_entries]

theorem WellFormed.isEmpty_iff (hs : s.WellFormed) : s.isEmpty = true ↔ s.contents = ∅ := by
  unfold isEmpty
  rw [beq_iff_eq, ← hs.card_keys_contents, Finset.card_eq_zero]
  constructor
  · intro hk
    refine eq_empty_of_forall_not_mem fun x hx => ?_
    have hm := Finmap.mem_keys.2 hx
    rw [hk] at hm
    exact absurd hm (Finset.notMem_empty x)
  · intro hc
    rw [hc, Finmap.keys_empty]

/-- All that can be seen of `s` is seen of the map `s.contents`, and every operation on `s` is one
on that map. -/
structure ActsAsMap (s : Store α) : Prop where
  get_eq : ∀ raw, s.get raw = match s.contents.lookup raw with
    | some v => .ok v
    | none => .error (.invalidHandle raw)
  contains_iff : ∀ raw, s.contains raw = true ↔ raw ∈ s.contents
  update_live : ∀ {β : Type} {raw : UInt32} {v : α} (f : α → β × α),
    s.contents.lookup raw = some v → (s.update raw f).result = .ok (f v).1 ∧
      (s.update raw f).state.contents = s.contents.insert raw (f v).2
  update_dead : ∀ {β : Type} {raw : UInt32} (f : α → β × α), raw ∉ s.contents →
    s.update raw f = .failed (.invalidHandle raw) s []
  remove_live : ∀ {raw : UInt32} {v : α}, s.contents.lookup raw = some v →
    (s.remove raw).result = .ok v ∧ (s.remove raw).state.contents = s.contents.erase raw
  remove_dead : ∀ {raw : UInt32}, raw ∉ s.contents →
    s.remove raw = .failed (.invalidHandle raw) s []
  insert_ok : ∀ {heap : Allocator} {v : α} {h : Handle}, (s.insert heap v).result = .ok h →
    h.raw ∉ s.contents ∧ (s.insert heap v).state.contents = s.contents.insert h.raw v
  insert_error : ∀ {heap : Allocator} {v : α} {cause : Fault},
    (s.insert heap v).result = .error cause → (s.insert heap v).state.contents = s.contents
  clear_eq : s.clear.state.contents = ∅
  setLimit_eq : ∀ limit, (s.setLimit limit).contents = s.contents
  live_eq : s.live = s.contents.keys.card
  isEmpty_iff : s.isEmpty = true ↔ s.contents = ∅
  entries_iff : ∀ raw v, s.contents.lookup raw = some v ↔ ∃ h, h.raw = raw ∧ (h, v) ∈ s.entries
  entries_sorted : (s.entries.map fun e => e.1.slot).Pairwise (· < ·)
  handles_iff : ∀ raw, raw ∈ s.contents ↔ ∃ h ∈ s.handles, h.raw = raw
  handles_sorted : (s.handles.map Handle.slot).Pairwise (· < ·)

theorem get_eq_contents (s : Store α) (raw : UInt32) :
    s.get raw = match s.contents.lookup raw with
      | some v => .ok v
      | none => .error (.invalidHandle raw) := by
  unfold get
  rw [lookup_contents]
  cases s.lookup raw <;> rfl

theorem contains_iff_mem_contents : s.contains raw = true ↔ raw ∈ s.contents := by
  unfold contains
  rw [Option.isSome_iff_ne_none, Ne, lookup_eq_none_iff, not_not]

theorem WellFormed.actsAsMap (hs : s.WellFormed) : s.ActsAsMap where
  get_eq := get_eq_contents s
  contains_iff _ := contains_iff_mem_contents
  update_live {_ _ v} f e := by
    have hc := contents_set e (f v).2
    obtain ⟨h, e⟩ := lookup_contents_eq_some_iff.1 e
    rw [update_ok e]
    exact ⟨rfl, hc⟩
  update_dead f hn := update_error (lookup_eq_none_iff.2 hn) f
  remove_live e := by
    obtain ⟨h, e⟩ := lookup_contents_eq_some_iff.1 e
    exact ⟨(remove_ok e).1, contents_remove s _⟩
  remove_dead hn := remove_error (lookup_eq_none_iff.2 hn)
  insert_ok e := ⟨(Store.insert_ok hs e).not_mem_contents, contents_of_issues (Store.insert_ok hs e)⟩
  insert_error e := by
    rw [Store.insert_error hs e]
    rfl
  clear_eq := contents_clear s
  setLimit_eq _ := rfl
  live_eq := hs.card_keys_contents.symm
  isEmpty_iff := hs.isEmpty_iff
  entries_iff _ _ := lookup_contents_iff_mem_entries
  entries_sorted := pairwise_slot_entries s
  handles_iff _ := mem_contents_iff
  handles_sorted := by
    rw [handles, List.map_map]
    exact pairwise_slot_entries s

/-- A store starts as the empty map, and in every state of a run it acts as a finite map. -/
theorem refines_finite_map (limit : StoreLimit) (slotBytes : Nat) (ops : List (Op α)) :
    (empty limit slotBytes : Store α).contents = ∅ ∧
      (run ops (empty limit slotBytes)).ActsAsMap :=
  ⟨contents_empty limit slotBytes, (wellFormed_run limit slotBytes ops).actsAsMap⟩

end HandleBridge.Store
