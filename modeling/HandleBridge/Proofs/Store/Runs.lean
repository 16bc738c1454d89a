import HandleBridge.Proofs.Store.WellFormed

/-
  Runs of a store: any operations, in any order, failing ones included.

  `clear` is one removal for each live handle, so a property of states that insertions, updates,
  removals and new limits keep is kept by every run (`run_induction`). The first such property
  is `WellFormed`.

  Proved:
  * `clear_eq_run`: clearing is the run of the removals of all live handles.
  * `wellFormed_run`: the invariant holds after every run.
  * `run_accounts_for_every_place`: the invariant, and that no indexing, increment or decrement
    of an operation can fail or leave its range.
-/

namespace HandleBridge.Store

variable {α : Type}

/-- What may be done to a store. -/
inductive Op (α : Type) where
  /-- Take `v` in; `heap` is how the allocator would answer just then. -/
  | insert (heap : Allocator) (v : α)
  /-- Change the instance behind a word in place. -/
  | update (raw : UInt32) (f : α → α)
  | remove (raw : UInt32)
  | clear
  | setLimit (limit : StoreLimit)

namespace Op

/-- The store that an operation leaves, whether it succeeded or not. -/
def apply : Op α → Store α → Store α
  | insert heap v, s => (s.insert heap v).state
  | update raw f, s => (s.update raw fun v => ((), f v)).state
  | remove raw, s => (s.remove raw).state
  | clear, s => s.clear.state
  | setLimit limit, s => s.setLimit limit

theorem apply_remove (raw : UInt32) (s : Store α) :
    (remove raw).apply s = (s.remove raw).state := rfl

end Op

/-- The store after a list of operations. -/
def run : List (Op α) → Store α → Store α
  | [], s => s
  | op :: ops, s => run ops (op.apply s)

theorem run_cons (op : Op α) (ops : List (Op α)) (s : Store α) :
    run (op :: ops) s = run ops (op.apply s) := rfl

theorem run_append (ops ops' : List (Op α)) (s : Store α) :
    run (ops ++ ops') s = run ops' (run ops s) := by
  induction ops generalizing s with
  | nil => rfl
  | cons op ops ih => exact ih (op.apply s)

theorem removeAll_cons (h : Handle) (hs : List Handle) (s : Store α) :
    (removeAll (h :: hs) s).1 = (removeAll hs (s.remove h.raw).state).1 := by
  rw [removeAll]

theorem removeAll_eq_run (hs : List Handle) (s : Store α) :
    (removeAll hs s).1 = run (hs.map fun h => .remove h.raw) s := by
  induction hs generalizing s with
  | nil => rfl
  | cons h hs ih =>
    rw [List.map_cons, run_cons, Op.apply_remove, ← ih, removeAll_cons]

theorem clear_eq_run (s : Store α) :
    s.clear.state = run (s.handles.map fun h => .remove h.raw) s := removeAll_eq_run s.handles s

section Induction

variable {P : Store α → Prop}

theorem run_removals_induction (remove : ∀ s raw, P s → P (s.remove raw).state) (hs : List Handle)
    (s : Store α) (h : P s) : P (run (hs.map fun h => .remove h.raw) s) := by
  induction hs generalizing s with
  | nil => exact h
  | cons k hs ih =>
    rw [List.map_cons, run_cons, Op.apply_remove]
    exact ih _ (remove s k.raw h)

/-- What the four single operations keep, every run keeps. -/
theorem run_induction (insert : ∀ s heap v, P s → P (s.insert heap v).state)
    (update : ∀ s raw (f : α → α), P s → P (s.update raw fun v => ((), f v)).state)
    (remove : ∀ s raw, P s → P (s.remove raw).state)
    (setLimit : ∀ s limit, P s → P (s.setLimit limit))
    (ops : List (Op α)) (s : Store α) (h : P s) : P (run ops s) := by
  induction ops generalizing s with
  | nil => exact h
  | cons op ops ih =>
    apply ih
    cases op with
    | insert heap v => exact insert s heap v h
    | update raw f => exact update s raw f h
    | remove raw => exact remove s raw h
    | clear =>
      show P s.clear.state
      rw [clear_eq_run]
      exact run_removals_induction remove s.handles s h
    | setLimit limit => exact setLimit s limit h

end Induction

/-! ## The invariant along a run -/

theorem WellFormed.after_insert {s : Store α} (hs : s.WellFormed) (heap : Allocator) (v : α) :
    (s.insert heap v).state.WellFormed := by
  rcases insert_cases hs heap v with ⟨h, -, hi⟩ | ⟨cause, hc⟩
  · exact hs.of_issues hi
  · rw [hc]
    exact hs

theorem WellFormed.after_update {s : Store α} (hs : s.WellFormed) {β : Type} (raw : UInt32)
    (f : α → β × α) : (s.update raw f).state.WellFormed := by
  cases e : s.lookup raw with
  | none =>
    rw [update_error e]
    exact hs
  | some p =>
    rw [update_ok e]
    exact hs.of_changes (set_of_lookup e _)

theorem WellFormed.after_remove {s : Store α} (hs : s.WellFormed) (raw : UInt32) :
    (s.remove raw).state.WellFormed := by
  cases e : s.lookup raw with
  | none =>
    rw [remove_error e]
    exact hs
  | some p => exact hs.of_ends (remove_ok e).2

theorem WellFormed.after_run {s : Store α} (hs : s.WellFormed) (ops : List (Op α)) :
    (run ops s).WellFormed :=
  run_induction (fun _ heap v h => h.after_insert heap v) (fun _ raw _ h => h.after_update raw _)
    (fun _ raw h => h.after_remove raw) (fun _ limit h => h.setLimit limit) ops s hs

/-- Every store that a run reaches is well formed. -/
theorem wellFormed_run (limit : StoreLimit) (slotBytes : Nat) (ops : List (Op α)) :
    (run ops (empty limit slotBytes)).WellFormed :=
  (wellFormed_empty limit slotBytes).after_run ops

/-! ## Nothing fails on a well-formed store -/

/-- All that an operation on `s` takes for granted about the table and the counters. -/
structure Safe (s : Store α) : Prop where
  /-- The place on top of the free list is a vacant place of the table, and it has a handle. -/
  reuse : ∀ {i : Nat} {rest : List Nat}, s.free = i :: rest →
    (∃ g, s.slots[i]? = some ⟨g, none⟩) ∧ ∃ h, Handle.new? i (s.generationAt i) = some h
  /-- A place beyond the table has a handle unless the table is full. -/
  extend : s.capacity < maxSlots → ∃ h, Handle.new? s.capacity 0 = some h
  /-- A place that is left has a next generation, or is at the last one; and it was counted. -/
  leave : ∀ {raw : UInt32} {h : Handle} {v : α}, s.lookup raw = some (h, v) →
    h.slot < s.capacity ∧ 0 < s.live ∧
      (h.generation ≠ maxGeneration → h.generation + 1 ≤ maxGeneration)
  /-- An occupied place has a handle. -/
  list : ∀ {i g : Nat} {v : α}, s.slots[i]? = some ⟨g, some v⟩ → ∃ h, Handle.new? i g = some h
  /-- The counters stay within the number of places. -/
  count : s.live ≤ maxSlots ∧ s.retired ≤ maxSlots ∧ s.free.length ≤ maxSlots

theorem WellFormed.exists_handle {s : Store α} (hs : s.WellFormed) {i g : Nat} {o : Option α}
    (e : s.slots[i]? = some ⟨g, o⟩) : ∃ h, Handle.new? i g = some h := by
  have hi : i < maxSlots := Nat.lt_of_lt_of_le (lt_capacity_of_getElem? e) hs.capacity_le
  exact ⟨⟨i, g, hi, hs.generation_le e⟩, Handle.new?_eq_some_iff.2 ⟨rfl, rfl⟩⟩

theorem WellFormed.safe {s : Store α} (hs : s.WellFormed) : s.Safe where
  reuse := by
    intro i rest hf
    obtain ⟨g, hg⟩ := hs.vacant_of_free (by rw [hf]; exact List.mem_cons_self)
    refine ⟨⟨g, hg⟩, ?_⟩
    unfold generationAt
    rw [hg]
    exact hs.exists_handle hg
  extend hc := ⟨⟨s.capacity, 0, hc, Nat.zero_le _⟩, Handle.new?_eq_some_iff.2 ⟨rfl, rfl⟩⟩
  leave := by
    intro raw h v e
    have ho := (lookup_eq_some_iff.1 e).2
    have hg := h.generation_le
    exact ⟨lt_capacity_of_getElem? ho, hs.live_pos ho, fun hne => by omega⟩
  list e := hs.exists_handle e
  count := by
    have ht := hs.total_eq
    have hc := hs.capacity_le
    omega

/-- After every run, and between any two of the removals that clearing it would make, the places
add up and no operation can index, increment or decrement out of range. -/
theorem run_accounts_for_every_place (limit : StoreLimit) (slotBytes : Nat) (ops : List (Op α)) :
    let s := run ops (empty limit slotBytes)
    (s.WellFormed ∧ s.Safe) ∧
      ∀ hs, hs <+: s.handles → (removeAll hs s).1.WellFormed ∧ (removeAll hs s).1.Safe := by
  intro s
  have hw : s.WellFormed := wellFormed_run limit slotBytes ops
  refine ⟨⟨hw, hw.safe⟩, fun hs _ => ?_⟩
  rw [removeAll_eq_run]
  exact ⟨hw.after_run _, (hw.after_run _).safe⟩

end HandleBridge.Store
