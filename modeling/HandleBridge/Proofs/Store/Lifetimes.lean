import HandleBridge.Proofs.Store.Runs

/-
  A handle names one instance for ever.

  Every place has an `age`: each instance that it takes in and each that leaves it adds one. So
  the age is even while the place is vacant and odd while it is occupied, and the generation of
  an occupant is half of it. Whether a vacant place of the last generation can be used once more
  shows in its age too: there the free list decides. No operation lowers an age (`Older`), and a
  handle is issued exactly when its place passes from `2 * generation` to the next age. That age
  is passed once, so the handle is issued once; and once its instance has left, the age has gone
  past the handle for good (`Over`).

  Proved:
  * `WellFormed.older_run`: ages never go down along a run.
  * `nodup_issued`: the handles that a run issues are distinct.
  * `handles_never_return`: the same of their raw forms, and that a removed handle is rejected
    in every later state.
-/

namespace HandleBridge.Store

variable {α : Type} {s t u : Store α} {i g : Nat} {h : Handle} {v w : α}

/-! ## The age of a place -/

/-- How often an instance came to place `i` or left it. -/
def age (s : Store α) (i : Nat) : Nat :=
  match s.slots[i]? with
  | none => 0
  | some ⟨g, some _⟩ => 2 * g + 1
  | some ⟨g, none⟩ => if i ∈ s.free then 2 * g else 2 * g + 2

theorem age_of_absent (hi : s.capacity ≤ i) : s.age i = 0 := by
  unfold age
  rw [Array.getElem?_eq_none hi]

theorem age_of_occupied (e : s.slots[i]? = some ⟨g, some v⟩) : s.age i = 2 * g + 1 := by
  unfold age
  rw [e]

theorem age_of_free (e : s.slots[i]? = some ⟨g, none⟩) (hf : i ∈ s.free) : s.age i = 2 * g := by
  unfold age
  rw [e]
  exact if_pos hf

theorem age_of_retired (e : s.slots[i]? = some ⟨g, none⟩) (hf : i ∉ s.free) :
    s.age i = 2 * g + 2 := by
  unfold age
  rw [e]
  exact if_neg hf

theorem age_congr (hs : t.slots[i]? = s.slots[i]?) (hf : i ∈ t.free ↔ i ∈ s.free) :
    t.age i = s.age i := by
  unfold age
  simp only [hs, hf]

theorem Issues.age_before (e : s.Issues h v t) : s.age h.slot = 2 * h.generation := by
  rcases e.chosen with ⟨hv, hf, -⟩ | ⟨-, -, hc, hg, -⟩
  · exact age_of_free hv (by rw [hf]; exact List.mem_cons_self)
  · rw [age_of_absent (Nat.le_of_eq hc.symm), hg]

theorem Issues.age_after (e : s.Issues h v t) : t.age h.slot = 2 * h.generation + 1 :=
  age_of_occupied e.placed.same

theorem Issues.age_other (e : s.Issues h v t) (hi : i ≠ h.slot) : t.age i = s.age i :=
  age_congr (e.placed.other hi) (e.mem_free_iff hi)

theorem Changes.age_eq (e : s.Changes h v w t) : t.age i = s.age i := by
  by_cases hi : i = h.slot
  · rw [hi, age_of_occupied e.placed.same, age_of_occupied e.occupied]
  · exact age_congr (e.placed.other hi) (by rw [e.free_eq])

theorem Ends.age_after (hs : s.WellFormed) (e : s.Ends h v t) :
    t.age h.slot = 2 * h.generation + 2 := by
  rcases e.vacated with ⟨-, p, hf, -⟩ | ⟨-, p, hf, -⟩
  · refine age_of_retired p.same ?_
    rw [hf]
    exact e.slot_not_free hs
  · rw [age_of_free p.same (by rw [hf]; exact List.mem_cons_self)]
    omega

theorem Ends.age_other (e : s.Ends h v t) (hi : i ≠ h.slot) : t.age i = s.age i :=
  age_congr (e.other hi).1 (e.other hi).2

/-! ## Ages only grow -/

/-- No place of `t` is younger than in `s`. -/
def Older (s t : Store α) : Prop := ∀ i, s.age i ≤ t.age i

theorem Older.refl (s : Store α) : s.Older s := fun _ => Nat.le_refl _

theorem Older.trans (h₁ : s.Older t) (h₂ : t.Older u) : s.Older u :=
  fun i => Nat.le_trans (h₁ i) (h₂ i)

theorem Issues.older (e : s.Issues h v t) : s.Older t := by
  intro i
  by_cases hi : i = h.slot
  · rw [hi, e.age_before, e.age_after]
    omega
  · rw [e.age_other hi]

theorem Ends.older (hs : s.WellFormed) (e : s.Ends h v t) : s.Older t := by
  intro i
  by_cases hi : i = h.slot
  · rw [hi, age_of_occupied e.occupied, e.age_after hs]
    omega
  · rw [e.age_other hi]

theorem WellFormed.older_insert (hs : s.WellFormed) (heap : Allocator) (v : α) :
    s.Older (s.insert heap v).state := by
  rcases insert_cases hs heap v with ⟨h, -, hi⟩ | ⟨cause, hc⟩
  · exact hi.older
  · rw [hc]
    exact Older.refl s

theorem WellFormed.older_remove (hs : s.WellFormed) (raw : UInt32) :
    s.Older (s.remove raw).state := by
  cases e : s.lookup raw with
  | none =>
    rw [remove_error e]
    exact Older.refl s
  | some p => exact (remove_ok e).2.older hs

theorem older_update {β : Type} (s : Store α) (raw : UInt32) (f : α → β × α) :
    s.Older (s.update raw f).state := by
  cases e : s.lookup raw with
  | none =>
    rw [update_error e]
    exact Older.refl s
  | some p =>
    rw [update_ok e]
    exact fun i => Nat.le_of_eq (set_of_lookup e _).age_eq.symm

theorem WellFormed.older_run (hs : s.WellFormed) (ops : List (Op α)) : s.Older (run ops s) := by
  have key : (run ops s).WellFormed ∧ s.Older (run ops s) := by
    refine run_induction (P := fun t => t.WellFormed ∧ s.Older t) ?_ ?_ ?_ ?_ ops s
      ⟨hs, Older.refl s⟩
    · exact fun t heap v ht => ⟨ht.1.after_insert heap v, ht.2.trans (ht.1.older_insert heap v)⟩
    · exact fun t raw f ht => ⟨ht.1.after_update raw _, ht.2.trans (older_update t raw _)⟩
    · exact fun t raw ht => ⟨ht.1.after_remove raw, ht.2.trans (ht.1.older_remove raw)⟩
    · exact fun t limit ht => ⟨ht.1.setLimit limit, ht.2⟩
  exact key.2

/-! ## A handle that is over -/

/-- The place of `h` has gone past it. -/
def Over (h : Handle) (s : Store α) : Prop := 2 * h.generation + 2 ≤ s.age h.slot

theorem Over.mono (hs : Over h s) (ht : s.Older t) : Over h t := Nat.le_trans hs (ht h.slot)

theorem exists_of_age_eq (ha : s.age h.slot = 2 * h.generation + 1) :
    ∃ v, s.lookup h.raw = some (h, v) := by
  cases e : s.slots[h.slot]? with
  | none =>
    rw [age_of_absent (Array.getElem?_eq_none_iff.1 e)] at ha
    omega
  | some slot =>
    obtain ⟨g, o⟩ := slot
    cases o with
    | none =>
      by_cases hf : h.slot ∈ s.free
      · rw [age_of_free e hf] at ha
        omega
      · rw [age_of_retired e hf] at ha
        omega
    | some v =>
      rw [age_of_occupied e] at ha
      have hg : g = h.generation := by omega
      subst hg
      exact ⟨v, lookup_raw_eq_some_iff.2 e⟩

theorem Over.lookup_eq_none (ho : Over h s) : s.lookup h.raw = none := by
  cases e : s.lookup h.raw with
  | none => rfl
  | some p =>
    obtain ⟨k, v⟩ := p
    obtain rfl := eq_of_lookup_raw e
    have ha := age_of_occupied (lookup_eq_some_iff.1 e).2
    unfold Over at ho
    omega

theorem over_remove (hs : s.WellFormed) (ha : 2 * h.generation + 1 ≤ s.age h.slot) :
    Over h (s.remove h.raw).state := by
  cases e : s.lookup h.raw with
  | some p =>
    obtain ⟨k, v⟩ := p
    obtain rfl := eq_of_lookup_raw e
    exact Nat.le_of_eq ((remove_ok e).2.age_after hs).symm
  | none =>
    -- not live although its place is old enough: the place is past the handle already
    have hne : s.age h.slot ≠ 2 * h.generation + 1 := by
      intro hc
      obtain ⟨v, hv⟩ := exists_of_age_eq hc
      rw [e] at hv
      cases hv
    rw [remove_error e]
    show 2 * h.generation + 2 ≤ s.age h.slot
    omega

theorem over_removeAll (hs : s.WellFormed) {ks : List Handle} (hm : h ∈ ks)
    (ha : 2 * h.generation + 1 ≤ s.age h.slot) : Over h (removeAll ks s).1 := by
  induction ks generalizing s with
  | nil => cases hm
  | cons k ks ih =>
    have hw := hs.after_remove k.raw
    rw [removeAll_cons]
    rcases List.mem_cons.1 hm with rfl | hm
    · refine (over_remove hs ha).mono ?_
      have ho := hw.older_run (ks.map fun k => .remove k.raw)
      rw [← removeAll_eq_run] at ho
      exact ho
    · exact ih hw hm (Nat.le_trans ha (hs.older_remove k.raw h.slot))

theorem over_clear (hs : s.WellFormed) (e : s.lookup h.raw = some (h, v)) :
    Over h s.clear.state := by
  have ho := (lookup_eq_some_iff.1 e).2
  exact over_removeAll hs (mem_handles.2 ⟨v, ho⟩) (Nat.le_of_eq (age_of_occupied ho).symm)

/-! ## Histories -/

namespace Op

/-- The handles that an operation issues: one if it is an insertion that succeeds. -/
def issued : Op α → Store α → List Handle
  | insert heap v, s => (s.insert heap v).result.toOption.toList
  | _, _ => []

/-- The operation takes the live instance behind `raw` out of `s`, alone or with all others. -/
def Removes (raw : UInt32) (s : Store α) : Op α → Prop
  | remove raw' => raw' = raw ∧ ∃ v, (s.remove raw).result = .ok v
  | clear => s.contains raw = true
  | _ => False

end Op

/-- The handles that a run issues, in order. -/
def issued : List (Op α) → Store α → List Handle
  | [], _ => []
  | op :: ops, s => op.issued s ++ issued ops (op.apply s)

theorem WellFormed.after_op (hs : s.WellFormed) (op : Op α) : (op.apply s).WellFormed :=
  hs.after_run [op]

theorem WellFormed.older_op (hs : s.WellFormed) (op : Op α) : s.Older (op.apply s) :=
  hs.older_run [op]

theorem issues_of_mem_issued (hs : s.WellFormed) {op : Op α} (hm : h ∈ op.issued s) :
    ∃ v, s.Issues h v (op.apply s) := by
  cases op with
  | insert heap v =>
    have hr : (s.insert heap v).result = .ok h := by
      change h ∈ (s.insert heap v).result.toOption.toList at hm
      rw [Option.mem_toList] at hm
      cases e : (s.insert heap v).result with
      | error cause =>
        rw [e] at hm
        cases hm
      | ok k =>
        rw [e] at hm
        cases hm
        rfl
    exact ⟨v, insert_ok hs hr⟩
  | update raw f => cases hm
  | remove raw => cases hm
  | clear => cases hm
  | setLimit limit => cases hm

/-- An age that a place has reached is behind every handle still to be issued there. -/
theorem age_le_of_mem_issued (hs : s.WellFormed) {ops : List (Op α)} (hm : h ∈ issued ops s) :
    s.age h.slot ≤ 2 * h.generation := by
  induction ops generalizing s with
  | nil => cases hm
  | cons op ops ih =>
    rcases List.mem_append.1 hm with hm | hm
    · obtain ⟨v, hv⟩ := issues_of_mem_issued hs hm
      exact Nat.le_of_eq hv.age_before
    · exact Nat.le_trans (hs.older_op op h.slot) (ih (hs.after_op op) hm)

theorem nodup_issued (hs : s.WellFormed) (ops : List (Op α)) : (issued ops s).Nodup := by
  induction ops generalizing s with
  | nil => exact List.nodup_nil
  | cons op ops ih =>
    refine List.nodup_append.2 ⟨?_, ih (hs.after_op op), ?_⟩
    · unfold Op.issued
      split
      · exact Option.toList_nodup _
      · exact List.nodup_nil
    · rintro h hm k hk rfl
      obtain ⟨v, hv⟩ := issues_of_mem_issued hs hm
      have hl := age_le_of_mem_issued (hs.after_op op) hk
      rw [hv.age_after] at hl
      omega

theorem over_of_removes (hs : s.WellFormed) {op : Op α} {raw : UInt32} (hr : op.Removes raw s) :
    ∃ h, h.raw = raw ∧ Over h (op.apply s) := by
  cases op with
  | remove raw' =>
    obtain ⟨rfl, v, hv⟩ := hr
    cases e : s.lookup raw' with
    | none =>
      rw [remove_error e] at hv
      cases hv
    | some p =>
      obtain ⟨h, w⟩ := p
      exact ⟨h, raw_of_lookup e, Nat.le_of_eq ((remove_ok e).2.age_after hs).symm⟩
  | clear =>
    obtain ⟨⟨h, v⟩, e⟩ := Option.isSome_iff_exists.1 hr
    obtain rfl := raw_of_lookup e
    exact ⟨h, rfl, over_clear hs e⟩
  | insert heap v => cases hr
  | update raw' f => cases hr
  | setLimit limit => cases hr

/-- A handle that is over is rejected by all that could reach an instance through it. -/
theorem rejected_of_lookup {raw : UInt32} (e : s.lookup raw = none) :
    s.get raw = .error (.invalidHandle raw) ∧ s.contains raw = false ∧
      (∀ (β : Type) (f : α → β × α), s.update raw f = .failed (.invalidHandle raw) s []) ∧
      s.remove raw = .failed (.invalidHandle raw) s [] := by
  refine ⟨?_, ?_, fun β f => update_error e f, remove_error e⟩
  · unfold get
    rw [e]
  · unfold contains
    rw [e]
    rfl

/-- No run issues a handle twice. Once an instance was removed, its handle names nothing in any
later state of the run, however often its place was taken again. -/
theorem handles_never_return (limit : StoreLimit) (slotBytes : Nat) (ops : List (Op α)) :
    ((issued ops (empty limit slotBytes)).map Handle.raw).Nodup ∧
      ∀ (before after : List (Op α)) (op : Op α) (raw : UInt32), ops = before ++ op :: after →
        op.Removes raw (run before (empty limit slotBytes)) →
        let s := run ops (empty limit slotBytes)
        s.get raw = .error (.invalidHandle raw) ∧ s.contains raw = false ∧
          (∀ (β : Type) (f : α → β × α), s.update raw f = .failed (.invalidHandle raw) s []) ∧
          s.remove raw = .failed (.invalidHandle raw) s [] := by
  have hw : (empty limit slotBytes : Store α).WellFormed := wellFormed_empty limit slotBytes
  constructor
  · exact (nodup_issued hw ops).map fun _ _ e => Handle.raw_inj.1 e
  · intro before after op raw hops hr s
    have hb := hw.after_run before
    obtain ⟨h, rfl, ho⟩ := over_of_removes hb hr
    have hl := (hb.after_op op).older_run after
    rw [← run_cons, ← run_append, ← hops] at hl
    exact rejected_of_lookup (ho.mono hl).lookup_eq_none

/-- The place of the handle 1 is taken again under 65537, and the handle 1 stays rejected. -/
theorem stale_handle_rejected_after_reuse :
    let heap : Allocator := fun _ => some 16
    let ops : List (Op Nat) := [.insert heap 5, .remove 1, .insert heap 6]
    let s := run ops (empty .default 32)
    (issued ops (empty .default 32)).map Handle.raw = [1, 65537] ∧
      s.get 65537 = .ok 6 ∧ s.get 1 = .error (.invalidHandle 1) := by
  intro heap ops s
  have hr : (Op.remove 1).Removes 1 (run [.insert heap 5] (empty .default 32 : Store Nat)) :=
    ⟨rfl, 5, rfl⟩
  refine ⟨by decide +kernel, by decide +kernel, ?_⟩
  exact ((handles_never_return .default 32 ops).2 [.insert heap 5] [.insert heap 6] (.remove 1) 1
    rfl hr).1

end HandleBridge.Store
