import HandleBridge.Proofs.Store.Contents
import HandleBridge.Proofs.Store.Lifetimes

/-
  The turns of a store: which instances came to its places and left them, in order.

  A run tells its turns by itself (`turns`). A removal that succeeds is one turn, and clearing is
  one for each live instance, in the order of the places; each of them succeeds, because the
  removals before it were at other places. So what the steps of a single place keep, together with
  the turns so far, every run keeps (`turns_induction`).

  Proved:
  * `clear_as_removals`: clearing counts as removals in the order of the places.
  * `removeAll_induction`: removing live instances from different places, one after another.
  * `turns_induction`: the induction over a run and its turns.
  * `issued_eq_came`: the handles that a run issues are those under which instances came.
-/

namespace HandleBridge

/-- What happens to a place. -/
inductive Turn where
  /-- An instance came to it under a fresh handle. -/
  | came (h : Handle)
  /-- The instance under the handle left it. -/
  | went (h : Handle)
deriving DecidableEq

namespace Turn

def handle : Turn → Handle
  | came h | went h => h

def slot (turn : Turn) : Nat := turn.handle.slot

def came? : Turn → Option Handle
  | came h => some h
  | went _ => none

/-- The place that was left has no generation for another instance. -/
def retires : Turn → Bool
  | came _ => false
  | went h => h.generation == maxGeneration

end Turn

namespace Store

variable {α : Type} {s t : Store α} {h : Handle} {v w : α}

/-- The turns of an operation, none if it fails. -/
def Op.turns : Op α → Store α → List Turn
  | insert heap v, s => (s.insert heap v).result.toOption.toList.map .came
  | update _ _, _ => []
  | remove raw, s => (s.lookup raw).toList.map fun e => .went e.1
  | clear, s => s.handles.map .went
  | setLimit _, _ => []

/-- The turns of a run, in order. -/
def turns : List (Op α) → Store α → List Turn
  | [], _ => []
  | op :: ops, s => op.turns s ++ turns ops (op.apply s)

theorem Op.turns_insert {heap : Allocator} (e : (s.insert heap v).result = .ok h) :
    (insert heap v).turns s = [.came h] := by
  simp [Op.turns, e, Except.toOption]

theorem Op.turns_insert_failed {heap : Allocator} {cause : Fault}
    (e : s.insert heap v = .failed cause s []) : (insert heap v).turns s = [] := by
  simp [Op.turns, e, Step.failed, Except.toOption]

theorem Op.turns_remove {raw : UInt32} (e : s.lookup raw = some (h, v)) :
    (remove raw : Op α).turns s = [.went h] := by
  simp [Op.turns, e]

theorem Op.turns_remove_failed {raw : UInt32} (e : s.lookup raw = none) :
    (remove raw : Op α).turns s = [] := by
  simp [Op.turns, e]

theorem pairwise_slot_handles (s : Store α) :
    s.handles.Pairwise fun a b => a.slot < b.slot := by
  rw [handles, List.pairwise_map]
  exact List.pairwise_map.1 (pairwise_slot_entries s)

/-- Where a life ends, the instances at other places stay. -/
theorem Ends.stays {k : Handle} (e : s.Ends h v t) (hk : k.slot ≠ h.slot)
    (hl : ∃ w, s.slots[k.slot]? = some ⟨k.generation, some w⟩) :
    ∃ w, t.slots[k.slot]? = some ⟨k.generation, some w⟩ := by
  rw [(e.other hk).1]
  exact hl

/-- Live instances at different places can be removed one after another. -/
theorem turns_removals {ks : List Handle} (hk : ks.Pairwise fun a b => a.slot < b.slot)
    (hl : ∀ k ∈ ks, ∃ v, s.slots[k.slot]? = some ⟨k.generation, some v⟩) :
    turns (ks.map fun k => .remove k.raw) s = ks.map .went := by
  induction ks generalizing s with
  | nil => rfl
  | cons k ks ih =>
    obtain ⟨hk, hks⟩ := List.pairwise_cons.1 hk
    obtain ⟨v, hv⟩ := hl k List.mem_cons_self
    have hv := lookup_raw_eq_some_iff.2 hv
    have hrest := ih hks fun k' hm =>
      (remove_ok hv).2.stays (Nat.ne_of_gt (hk k' hm)) (hl k' (List.mem_cons_of_mem _ hm))
    rw [List.map_cons, turns, Op.turns_remove hv, Op.apply_remove, hrest]
    rfl

/-- Clearing counts as removing the live instances in the order of their places. -/
theorem clear_as_removals (s : Store α) :
    (∀ k, k ∈ s.handles ↔ ∃ v, s.lookup k.raw = some (k, v)) ∧
      (s.handles.Pairwise fun a b => a.slot < b.slot) ∧
      s.clear.state = run (s.handles.map fun k => .remove k.raw) s ∧
      Op.clear.turns s = turns (s.handles.map fun k => .remove k.raw) s := by
  refine ⟨fun k => ?_, pairwise_slot_handles s, clear_eq_run s, ?_⟩
  · rw [mem_handles]
    exact exists_congr fun v => lookup_raw_eq_some_iff.symm
  · exact (turns_removals (pairwise_slot_handles s) fun k hm => mem_handles.1 hm).symm

section Induction

variable {P : List Turn → Store α → Prop}

/-- What one ending of a life keeps, the endings of several lives keep. -/
theorem removeAll_induction
    (ends : ∀ {past s h v t}, s.WellFormed → s.Ends h v t → P past s → P (past ++ [.went h]) t)
    {ks : List Handle} {past : List Turn} (hs : s.WellFormed)
    (hk : ks.Pairwise fun a b => a.slot < b.slot)
    (hl : ∀ k ∈ ks, ∃ v, s.slots[k.slot]? = some ⟨k.generation, some v⟩) (hp : P past s) :
    P (past ++ ks.map .went) (removeAll ks s).1 := by
  induction ks generalizing past s with
  | nil => simpa [removeAll] using hp
  | cons k ks ih =>
    obtain ⟨hk, hks⟩ := List.pairwise_cons.1 hk
    obtain ⟨v, hv⟩ := hl k List.mem_cons_self
    have he : s.Ends k v (s.remove k.raw).state := (remove_ok (lookup_raw_eq_some_iff.2 hv)).2
    -- the other instances are at other places, so they are still there
    have hl' : ∀ k' ∈ ks,
        ∃ v, (s.remove k.raw).state.slots[k'.slot]? = some ⟨k'.generation, some v⟩ :=
      fun k' hm => he.stays (Nat.ne_of_gt (hk k' hm)) (hl k' (List.mem_cons_of_mem _ hm))
    have hp' := ih (hs.of_ends he) hks hl' (ends hs he hp)
    rw [List.append_assoc] at hp'
    rw [removeAll_cons]
    exact hp'

/-- What the steps of single places keep, together with the turns so far, every run keeps. -/
theorem turns_induction
    (issues : ∀ {past s h v t}, s.WellFormed → s.Issues h v t → P past s → P (past ++ [.came h]) t)
    (changes : ∀ {past s h v w t}, s.WellFormed → s.Changes h v w t → P past s → P past t)
    (ends : ∀ {past s h v t}, s.WellFormed → s.Ends h v t → P past s → P (past ++ [.went h]) t)
    (limits : ∀ {past s} (limit : StoreLimit), P past s → P past (s.setLimit limit))
    (past : List Turn) (ops : List (Op α)) (hs : s.WellFormed) (hp : P past s) :
    P (past ++ turns ops s) (run ops s) := by
  induction ops generalizing past s with
  | nil => simpa [turns, run] using hp
  | cons op ops ih =>
    have step : P (past ++ op.turns s) (op.apply s) := by
      cases op with
      | insert heap v =>
        rcases insert_cases hs heap v with ⟨h, hr, hi⟩ | ⟨cause, hc⟩
        · rw [Op.turns_insert hr]
          exact issues hs hi hp
        · rw [Op.turns_insert_failed hc, List.append_nil, Op.apply, hc]
          exact hp
      | update raw f =>
        rw [Op.turns, List.append_nil, Op.apply]
        cases e : s.lookup raw with
        | none =>
          rw [update_error e]
          exact hp
        | some p =>
          rw [update_ok e]
          exact changes hs (set_of_lookup e _) hp
      | remove raw =>
        rw [Op.apply]
        cases e : s.lookup raw with
        | none =>
          rw [Op.turns_remove_failed e, List.append_nil, remove_error e]
          exact hp
        | some p =>
          rw [Op.turns_remove e]
          exact ends hs (remove_ok e).2 hp
      | clear =>
        have hl : ∀ k ∈ s.handles, ∃ v, s.slots[k.slot]? = some ⟨k.generation, some v⟩ :=
          fun k hm => mem_handles.1 hm
        exact removeAll_induction ends hs (pairwise_slot_handles s) hl hp
      | setLimit limit =>
        rw [Op.turns, List.append_nil]
        exact limits limit hp
    rw [turns, ← List.append_assoc, run_cons]
    exact ih _ (hs.after_op op) step

end Induction

theorem Op.issued_eq_came (op : Op α) (s : Store α) :
    op.issued s = (op.turns s).filterMap Turn.came? := by
  cases op <;> simp [Op.issued, Op.turns, List.filterMap_map, Function.comp_def, Turn.came?]

/-- The handles that a run issues are those under which instances came. -/
theorem issued_eq_came (ops : List (Op α)) (s : Store α) :
    issued ops s = (turns ops s).filterMap Turn.came? := by
  induction ops generalizing s with
  | nil => rfl
  | cons op ops ih => rw [issued, turns, List.filterMap_append, ih, op.issued_eq_came]

end Store

end HandleBridge
