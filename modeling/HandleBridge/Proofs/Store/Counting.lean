import HandleBridge.Proofs.Store.Insertion
import HandleBridge.Proofs.Store.Turns
import Mathlib.Algebra.Order.BigOperators.Group.Finset
import Mathlib.Order.Bounds.Defs

/-
  How many handles a store has issued, and how many places it needs for them.

  The lives that its places have seen can be read off a store: each generation that a place has
  gone past was one, each instance that is live now is one, and the last life of a retired place is
  counted by `retired` alone, because no generation comes after it. This total (`lives`) goes up by
  one when a handle is issued and stays the same in all other steps. So it is the number of handles
  issued, and there are no more of them than places times generations.

  The table grows only when no place is vacant for another instance. At that moment all places are
  live or retired, so the table is never larger than the live and retired places once were.

  Proved:
  * `Issues.lives_eq`, `Changes.lives_eq`, `Ends.lives_eq`: what a step does to the total.
  * `length_issued`, `WellFormed.lives_le`: the total counts the issued handles, and its bound.
  * `WellFormed.grows_run`: capacity, `retired` and generations never go down along a run.
  * `every_life_is_counted`: the counting law, its bound, and what happens at the bound.
  * `capacity_is_peak`: the capacity is the greatest number of live and retired places so far.
-/

namespace HandleBridge.Store

variable {α : Type} {s t u : Store α} {i g : Nat} {h : Handle} {v w : α}

/-! ## The lives that the places have seen -/

/-- The generations of all places together. -/
def generations (s : Store α) : Nat := ∑ i ∈ Finset.range s.capacity, s.generationAt i

/-- How many instances came to the places, as the places tell it. -/
def lives (s : Store α) : Nat := s.generations + s.live + s.retired

theorem generationAt_of_getElem? {o : Option α} (e : s.slots[i]? = some ⟨g, o⟩) :
    s.generationAt i = g := by
  simp [generationAt, e]

theorem generationAt_of_absent (hi : s.capacity ≤ i) : s.generationAt i = 0 := by
  unfold generationAt
  rw [Array.getElem?_eq_none hi]

theorem generationAt_congr (e : t.slots[i]? = s.slots[i]?) :
    t.generationAt i = s.generationAt i := by
  simp [generationAt, e]

/-- A step that changes one place of the table changes the sum by what it changes there. -/
theorem generations_of_placed {o : Option α} (p : s.Placed t i ⟨g, o⟩) (hi : i < s.capacity)
    (hc : t.capacity = s.capacity) : t.generations + s.generationAt i = s.generations + g := by
  have hm : i ∈ Finset.range s.capacity := Finset.mem_range.2 hi
  have hothers : ∑ j ∈ (Finset.range s.capacity).erase i, t.generationAt j =
      ∑ j ∈ (Finset.range s.capacity).erase i, s.generationAt j := by
    refine Finset.sum_congr rfl fun j hj => ?_
    exact generationAt_congr (p.other (Finset.mem_erase.1 hj).1)
  have ht := Finset.add_sum_erase _ t.generationAt hm
  have hs := Finset.add_sum_erase _ s.generationAt hm
  rw [generationAt_of_getElem? p.same, hothers] at ht
  unfold generations
  rw [hc]
  omega

theorem Issues.generations_eq (e : s.Issues h v t) : t.generations = s.generations := by
  rcases e.chosen with ⟨hv, -, hc⟩ | ⟨-, -, hn, hg, hc⟩
  · have hi := lt_capacity_of_getElem? hv
    have hp := generations_of_placed e.placed hi hc
    rw [generationAt_of_getElem? hv] at hp
    omega
  · -- the new place is at the end of the table, and its generation is zero
    have hold : ∑ j ∈ Finset.range s.capacity, t.generationAt j = s.generations := by
      refine Finset.sum_congr rfl fun j hj => ?_
      have hj := Finset.mem_range.1 hj
      exact generationAt_congr (e.placed.other (by omega))
    have hnew : t.generationAt s.capacity = 0 := by
      rw [← hn, generationAt_of_getElem? e.placed.same, hg]
    unfold generations
    rw [hc, Finset.sum_range_succ, hold, hnew, Nat.add_zero]
    rfl

theorem Issues.lives_eq (e : s.Issues h v t) : t.lives = s.lives + 1 := by
  have hg := e.generations_eq
  have hl := e.live_eq
  have hr := e.retired_eq
  unfold lives
  omega

theorem Changes.lives_eq (e : s.Changes h v w t) : t.lives = s.lives := by
  have hi := lt_capacity_of_getElem? e.occupied
  have hg := generations_of_placed e.placed hi e.capacity_eq
  rw [generationAt_of_getElem? e.occupied] at hg
  unfold lives
  rw [e.live_eq, e.retired_eq]
  omega

/-- A life that ends becomes a generation gone past, or one more retired place. -/
theorem Ends.lives_eq (hs : s.WellFormed) (e : s.Ends h v t) : t.lives = s.lives := by
  have hi := lt_capacity_of_getElem? e.occupied
  have hl := hs.live_pos e.occupied
  have hl' := e.live_eq
  unfold lives
  rcases e.vacated with ⟨-, p, -, hr⟩ | ⟨-, p, -, hr⟩
  all_goals
    have hg := generations_of_placed p hi e.capacity_eq
    rw [generationAt_of_getElem? e.occupied] at hg
    omega

theorem lives_empty (limit : StoreLimit) (slotBytes : Nat) :
    (empty limit slotBytes : Store α).lives = 0 := rfl

/-- A run issues as many handles as its places see lives. -/
theorem length_issued (hs : s.WellFormed) (ops : List (Op α)) :
    s.lives + (issued ops s).length = (run ops s).lives := by
  rw [issued_eq_came]
  refine turns_induction
    (P := fun past t => s.lives + (past.filterMap Turn.came?).length = t.lives) ?_ ?_ ?_ ?_
    [] ops hs rfl
  · intro past s h v t _ e hp
    rw [e.lives_eq, ← hp]
    simp [Turn.came?, Nat.add_assoc]
  · intro past s h v w t _ e hp
    rw [e.lives_eq]
    exact hp
  · intro past s h v t hs e hp
    rw [e.lives_eq hs, ← hp]
    simp [Turn.came?]
  · exact fun limit hp => hp

theorem WellFormed.generationAt_le (hs : s.WellFormed) (i : Nat) :
    s.generationAt i ≤ maxGeneration := by
  unfold generationAt
  split
  · rename_i slot e
    exact hs.generation_le e
  · exact Nat.zero_le _

theorem WellFormed.lives_le (hs : s.WellFormed) : s.lives ≤ maxSlots * (maxGeneration + 1) := by
  have hsum : s.generations ≤ s.capacity * maxGeneration :=
    calc s.generations ≤ ∑ _i ∈ Finset.range s.capacity, maxGeneration :=
          Finset.sum_le_sum fun i _ => hs.generationAt_le i
      _ = s.capacity * maxGeneration := by
          rw [Finset.sum_const_nat fun _ _ => rfl, Finset.card_range]
  have ht := hs.total_eq
  calc s.lives ≤ s.capacity * maxGeneration + s.capacity := by unfold lives; omega
    _ = s.capacity * (maxGeneration + 1) := (Nat.mul_succ _ _).symm
    _ ≤ maxSlots * (maxGeneration + 1) := Nat.mul_le_mul_right _ hs.capacity_le

/-! ## What never goes down -/

/-- `t` has no fewer places than `s`, retired or not, and none of an earlier generation. -/
structure Grows (s t : Store α) : Prop where
  capacity_le : s.capacity ≤ t.capacity
  retired_le : s.retired ≤ t.retired
  generationAt_le : ∀ i, s.generationAt i ≤ t.generationAt i

theorem Grows.refl (s : Store α) : s.Grows s :=
  ⟨Nat.le_refl _, Nat.le_refl _, fun _ => Nat.le_refl _⟩

theorem Grows.trans (h₁ : s.Grows t) (h₂ : t.Grows u) : s.Grows u where
  capacity_le := Nat.le_trans h₁.capacity_le h₂.capacity_le
  retired_le := Nat.le_trans h₁.retired_le h₂.retired_le
  generationAt_le i := Nat.le_trans (h₁.generationAt_le i) (h₂.generationAt_le i)

theorem generationAt_le_of_placed {o : Option α} (p : s.Placed t i ⟨g, o⟩)
    (hg : s.generationAt i ≤ g) (j : Nat) : s.generationAt j ≤ t.generationAt j := by
  by_cases hj : j = i
  · rw [hj, generationAt_of_getElem? p.same]
    exact hg
  · rw [generationAt_congr (p.other hj)]

theorem Issues.grows (e : s.Issues h v t) : s.Grows t := by
  have hg : s.generationAt h.slot = h.generation ∧ s.capacity ≤ t.capacity := by
    rcases e.chosen with ⟨hv, -, hc⟩ | ⟨-, -, hn, hg, hc⟩
    · exact ⟨generationAt_of_getElem? hv, Nat.le_of_eq hc.symm⟩
    · exact ⟨by rw [generationAt_of_absent (Nat.le_of_eq hn.symm), hg], by omega⟩
  exact ⟨hg.2, Nat.le_of_eq e.retired_eq.symm,
    generationAt_le_of_placed e.placed (Nat.le_of_eq hg.1)⟩

theorem Changes.grows (e : s.Changes h v w t) : s.Grows t := by
  have hg := generationAt_of_getElem? e.occupied
  exact ⟨Nat.le_of_eq e.capacity_eq.symm, Nat.le_of_eq e.retired_eq.symm,
    generationAt_le_of_placed e.placed (Nat.le_of_eq hg)⟩

theorem Ends.grows (e : s.Ends h v t) : s.Grows t := by
  have hg := generationAt_of_getElem? e.occupied
  have hc := Nat.le_of_eq e.capacity_eq.symm
  rcases e.vacated with ⟨-, p, -, hr⟩ | ⟨-, p, -, hr⟩
  all_goals exact ⟨hc, by omega, generationAt_le_of_placed p (by omega)⟩

theorem WellFormed.grows_run (hs : s.WellFormed) (ops : List (Op α)) : s.Grows (run ops s) := by
  refine turns_induction (P := fun _ t => s.Grows t) ?_ ?_ ?_ ?_ [] ops hs (.refl s)
  · exact fun _ e hp => hp.trans e.grows
  · exact fun _ e hp => hp.trans e.grows
  · exact fun _ e hp => hp.trans e.grows
  · exact fun _ hp => ⟨hp.1, hp.2, hp.3⟩

/-! ## The counting law -/

theorem exhausted_of_retired (hs : s.WellFormed) (hr : s.retired = maxSlots) : s.Exhausted := by
  have ht := hs.total_eq
  have hc := hs.capacity_le
  have hf : s.free = [] := List.length_eq_zero_iff.1 (by omega)
  rw [hs.exhausted_iff]
  by_cases hl : s.limit.max ≤ s.live
  · exact .inl hl
  · exact .inr ⟨by omega, hf, by omega⟩

/-- Every handle that a run has issued is a generation that its place has gone past, or is live, or
was the last one of a retired place. The table, the retired places and the generations only grow.
So there are at most 65535 * 65536 handles, and once all places are retired there is never another
one. -/
theorem every_life_is_counted (limit : StoreLimit) (slotBytes : Nat) (ops : List (Op α)) :
    let fresh : Store α := empty limit slotBytes
    let s := run ops fresh
    (issued ops fresh).length =
        (∑ i ∈ Finset.range s.capacity, s.generationAt i) + s.live + s.retired ∧
      (∀ before after, ops = before ++ after → (run before fresh).Grows s) ∧
      (issued ops fresh).length ≤ 65535 * 65536 ∧
      (s.retired = 65535 → ∀ (later : List (Op α)) (heap : Allocator) (v : α),
        let t := run (ops ++ later) fresh
        t.insert heap v = .failed (.capacityExhausted t.limit.max) t []) := by
  intro fresh s
  have hs : s.WellFormed := wellFormed_run limit slotBytes ops
  have hcount : (issued ops fresh).length = s.lives := by
    have hl := length_issued (wellFormed_empty limit slotBytes) ops
    rw [lives_empty, Nat.zero_add] at hl
    exact hl
  refine ⟨hcount, ?_, ?_, ?_⟩
  · rintro before after rfl
    have hb : (run before fresh).WellFormed := wellFormed_run limit slotBytes before
    have hg := hb.grows_run after
    rw [← run_append] at hg
    exact hg
  · rw [hcount]
    exact hs.lives_le
  · intro hr later heap v t
    have ht : t.WellFormed := wellFormed_run limit slotBytes _
    have hg : s.Grows t := by
      have hg := hs.grows_run later
      rw [← run_append] at hg
      exact hg
    have hm : t.retired = maxSlots := by
      have hle := hg.retired_le
      have htotal := ht.total_eq
      have hc := ht.capacity_le
      unfold maxSlots at hc ⊢
      omega
    exact insert_of_exhausted ht (exhausted_of_retired ht hm)

/-! ## The peak -/

/-- The table grows only when every place is live or retired. -/
theorem Issues.capacity_cases (hs : s.WellFormed) (e : s.Issues h v t) :
    t.capacity = s.capacity ∨ t.live + t.retired = t.capacity := by
  rcases e.chosen with ⟨-, -, hc⟩ | ⟨-, hf, -⟩
  · exact .inl hc
  · have ht := (hs.of_issues e).total_eq
    rw [hf, List.length_nil] at ht
    exact .inr ht

theorem capacity_remove (s : Store α) (raw : UInt32) :
    (s.remove raw).state.capacity = s.capacity := by
  cases e : s.lookup raw with
  | none =>
    rw [remove_error e]
    rfl
  | some p => exact (remove_ok e).2.capacity_eq

theorem WellFormed.capacity_apply (hs : s.WellFormed) (op : Op α) :
    (op.apply s).capacity = s.capacity ∨
      (op.apply s).live + (op.apply s).retired = (op.apply s).capacity := by
  cases op with
  | insert heap v =>
    rcases insert_cases hs heap v with ⟨h, -, hi⟩ | ⟨cause, hc⟩
    · exact hi.capacity_cases hs
    · rw [Op.apply, hc]
      exact .inl rfl
  | update raw f =>
    rw [Op.apply]
    cases e : s.lookup raw with
    | none =>
      rw [update_error e]
      exact .inl rfl
    | some p =>
      rw [update_ok e]
      exact .inl (set_of_lookup e _).capacity_eq
  | remove raw => exact .inl (capacity_remove s raw)
  | clear =>
    left
    rw [Op.apply, clear_eq_run]
    exact run_removals_induction (P := fun t => t.capacity = s.capacity)
      (fun t raw ht => (capacity_remove t raw).trans ht) s.handles s rfl
  | setLimit limit => exact .inl rfl

/-- The capacity was reached by live and retired places. -/
theorem exists_full_before (hs : s.WellFormed) (h0 : s.capacity = 0) (ops : List (Op α)) :
    ∃ before, before <+: ops ∧
      (run before s).live + (run before s).retired = (run ops s).capacity := by
  induction ops using List.reverseRecOn with
  | nil =>
    have ht := hs.total_eq
    exact ⟨[], List.prefix_rfl, by show s.live + s.retired = s.capacity; omega⟩
  | append_singleton ops op ih =>
    have hstep := (hs.after_run ops).capacity_apply op
    have hrun : run (ops ++ [op]) s = op.apply (run ops s) := run_append ops [op] s
    rw [← hrun] at hstep
    rcases hstep with hc | hfull
    · obtain ⟨before, hp, he⟩ := ih
      exact ⟨before, hp.trans (List.prefix_append ops [op]), he.trans hc.symm⟩
    · exact ⟨ops ++ [op], List.prefix_rfl, hfull⟩

theorem capacity_le_of_begins (hs : s.WellFormed) {before ops : List (Op α)} (hp : before <+: ops) :
    (run before s).live + (run before s).retired ≤ (run ops s).capacity := by
  obtain ⟨after, rfl⟩ := hp
  have hb := hs.after_run before
  have ht := hb.total_eq
  have hg := (hb.grows_run after).capacity_le
  rw [← run_append] at hg
  omega

/-- Over every run the number of places is the greatest number of live and retired ones that there
were at once. If none is retired, it is the greatest number of instances that lived at once. -/
theorem capacity_is_peak (limit : StoreLimit) (slotBytes : Nat) (ops : List (Op α)) :
    let fresh : Store α := empty limit slotBytes
    IsGreatest {n | ∃ before, before <+: ops ∧
        n = (run before fresh).live + (run before fresh).retired} (run ops fresh).capacity ∧
      ((run ops fresh).retired = 0 →
        IsGreatest {n | ∃ before, before <+: ops ∧ n = (run before fresh).live}
          (run ops fresh).capacity) := by
  intro fresh
  have hw : fresh.WellFormed := wellFormed_empty limit slotBytes
  obtain ⟨before, hp, he⟩ := exists_full_before hw rfl ops
  refine ⟨⟨⟨before, hp, he.symm⟩, ?_⟩, fun hr => ⟨⟨before, hp, ?_⟩, ?_⟩⟩
  · rintro n ⟨before, hp, rfl⟩
    exact capacity_le_of_begins hw hp
  · -- nothing was retired then if nothing is now
    obtain ⟨after, rfl⟩ := hp
    have hg := ((hw.after_run before).grows_run after).retired_le
    rw [← run_append, hr] at hg
    omega
  · rintro n ⟨before, hp, rfl⟩
    exact Nat.le_trans (Nat.le_add_right _ _) (capacity_le_of_begins hw hp)

end HandleBridge.Store
