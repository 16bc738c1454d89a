import HandleBridge.Proofs.Export.Within

/-
  Runs that are aborted.

  Only the administrative calls insist on a free store. Every other call that finds its store in
  use is turned away and its run goes on. So a run that is aborted has come to a point where an
  administrative call finds the store of its type in use, and the abort names that type. Nothing
  further out catches it: what aborts a part of a run aborts the run.

  Proved:
  * `run_after_error`, `run_create_error_cases` and their likes: which part of a call was aborted.
  * `Within.run_error`: an abort goes outward unchanged.
  * `run_eq_error_iff`: a run is aborted exactly from such a point.
-/

namespace HandleBridge.Script

open World

variable {M : Catalog} {α β : Type} {k : Fin M.count} {raw : UInt32} {w w' : World M}
  {a : Abort M}

/-! ## The part that was aborted -/

theorem run_after_error {first : Script M β} {next : β → Script M α}
    (he : run (after first next) w = .error a) :
    run first w = .error a ∨
      ∃ o, run first w = .ok o ∧ run (next o.value) o.world = .error a := by
  cases h₁ : run first w with
  | error b =>
    rw [run, h₁] at he
    cases he
    exact Or.inl rfl
  | ok o =>
    cases h₂ : run (next o.value) o.world with
    | error b =>
      rw [run, h₁] at he
      dsimp only at he
      rw [h₂] at he
      cases he
      exact Or.inr ⟨o, rfl, h₂⟩
    | ok o₂ =>
      rw [run_after_of_ok h₁ h₂] at he
      cases he

theorem run_create_error_cases {make : Script M (M.Value k)} {drop : M.Value k → Script M Unit}
    (he : run (create k make drop) w = .error a) :
    run make w = .error a ∨
      ∃ o cause, run make w = .ok o ∧ (o.world.register k o.value).result = .error cause ∧
        run (drop o.value) ((o.world.register k o.value).state.setBorrowed k true) = .error a := by
  cases h₁ : run make w with
  | error b =>
    rw [run_create_eq, h₁] at he
    cases he
    exact Or.inl rfl
  | ok o =>
    cases hc : (o.world.register k o.value).result with
    | ok h =>
      rw [run_create_of_registered h₁ hc] at he
      cases he
    | error cause =>
      rw [run_create_eq, h₁] at he
      dsimp only at he
      rw [hc] at he
      dsimp only at he
      cases h₂ : run (drop o.value) ((o.world.register k o.value).state.setBorrowed k true) with
      | error b =>
        rw [h₂] at he
        cases he
        exact Or.inr ⟨o, cause, rfl, hc, h₂⟩
      | ok o₂ =>
        rw [h₂] at he
        cases he

theorem run_withInstance_error_cases {sentinel : α}
    {body : M.Value k → Script M (M.Value k × Layered α)}
    (he : run (withInstance k raw sentinel body) w = .error a) :
    w.isBorrowed k = false ∧
      ∃ v, (w.store k).get raw = .ok v ∧ run (body v) (w.setBorrowed k true) = .error a := by
  cases hb : w.isBorrowed k with
  | true =>
    rw [run_withInstance_of_borrowed hb] at he
    cases he
  | false =>
    refine ⟨rfl, ?_⟩
    cases hg : (w.store k).get raw with
    | error cause =>
      rw [run_withInstance_of_error hb hg] at he
      cases he
    | ok v =>
      cases h₁ : run (body v) (w.setBorrowed k true) with
      | error b =>
        rw [run, if_neg (Bool.eq_false_iff.1 hb), hg] at he
        dsimp only at he
        rw [h₁] at he
        cases he
        exact ⟨v, rfl, h₁⟩
      | ok o =>
        rw [run_withInstance_of_ok hb hg h₁] at he
        cases he

theorem run_take_error_cases {how : Departure} {sentinel : α}
    {body : M.Value k → Script M (Layered α)}
    (he : run (take k how raw sentinel body) w = .error a) :
    ∃ v, (w.remove k raw).result = .ok v ∧ run (body v) (w.remove k raw).state = .error a := by
  cases hv : (w.remove k raw).result with
  | error cause =>
    rw [run_take_of_refused hv] at he
    cases he
  | ok v =>
    cases h₁ : run (body v) (w.remove k raw).state with
    | error b =>
      rw [run_take_eq, hv] at he
      dsimp only at he
      rw [h₁] at he
      cases he
      exact ⟨v, rfl, h₁⟩
    | ok o =>
      rw [run_take_of_removed hv h₁] at he
      cases he

/-! ## Where an abort comes from -/

/-- The script is an administrative call on `k`. -/
inductive Insists : {α : Type} → Script M α → Fin M.count → Prop where
  | liveInstances (k : Fin M.count) : Insists (liveInstances k) k
  | configure (k : Fin M.count) (limit : StoreLimit) : Insists (configure k limit) k

theorem Insists.run_error {s : Script M α} (hi : s.Insists k) (hb : w.isBorrowed k = true) :
    run s w = .error ⟨k⟩ := by
  cases hi with
  | liveInstances k => rw [run, if_pos hb]
  | configure k limit => rw [run, if_pos hb]

/-- What aborts a part of a run aborts the run: induction on where the part is. -/
theorem Within.run_error {s : Script M α} {used : List (Fin M.count)} {s' : Script M β}
    (p : Within s w used s' w') (he : run s' w' = .error a) : run s w = .error a := by
  induction p with
  | here s w => exact he
  | first p ih => rw [run, ih he]
  | next hr p ih =>
    rw [run, hr]
    dsimp only
    rw [ih he]
  | make p ih => rw [run_create_eq, ih he]
  | drop hr hc p ih =>
    rw [run_create_eq, hr]
    dsimp only
    rw [hc]
    dsimp only
    rw [ih he]
  | method hb hg p ih =>
    rw [run, if_neg (Bool.eq_false_iff.1 hb), hg]
    dsimp only
    rw [ih he]
  | departure hv p ih =>
    rw [run_take_eq, hv]
    dsimp only
    rw [ih he]

/-- While `s` is played from `w`, an administrative call on `k` finds the store in use. -/
def InsistsWithin (s : Script M α) (w : World M) (k : Fin M.count) : Prop :=
  ∃ (β : Type) (used : List (Fin M.count)) (s' : Script M β) (w' : World M),
    Within s w used s' w' ∧ s'.Insists k ∧ w'.isBorrowed k = true

/-- Induction on the script, by the part of its outermost call that was aborted. -/
theorem insistsWithin_of_error {s : Script M α} (he : run s w = .error ⟨k⟩) :
    InsistsWithin s w k := by
  induction s generalizing w with
  | done value => cases he
  | after first next ihf ihn =>
    rcases run_after_error he with h₁ | ⟨o, h₁, h₂⟩
    · obtain ⟨β, used, s', w', p, hi⟩ := ihf h₁
      exact ⟨β, used, s', w', .first p, hi⟩
    · obtain ⟨β, used, s', w', p, hi⟩ := ihn _ h₂
      exact ⟨β, used, s', w', .next h₁ p, hi⟩
  | create j make drop ihm ihd =>
    rcases run_create_error_cases he with h₁ | ⟨o, cause, h₁, hc, h₂⟩
    · obtain ⟨β, used, s', w', p, hi⟩ := ihm h₁
      exact ⟨β, used, s', w', .make p, hi⟩
    · obtain ⟨β, used, s', w', p, hi⟩ := ihd _ h₂
      exact ⟨β, j :: used, s', w', .drop h₁ hc p, hi⟩
  | withInstance j raw sentinel body ih =>
    obtain ⟨hb, v, hg, h₁⟩ := run_withInstance_error_cases he
    obtain ⟨β, used, s', w', p, hi⟩ := ih v h₁
    exact ⟨β, j :: used, s', w', .method hb hg p, hi⟩
  | take j how raw sentinel body ih =>
    obtain ⟨v, hv, h₁⟩ := run_take_error_cases he
    obtain ⟨β, used, s', w', p, hi⟩ := ih v h₁
    exact ⟨β, used, s', w', .departure hv p, hi⟩
  | allocator => cases he
  | note event => cases he
  | liveInstances j =>
    rw [run] at he
    split at he
    · cases he
      exact ⟨_, [], _, w, .here _ _, .liveInstances k, ‹_›⟩
    · cases he
  | configure j limit =>
    rw [run] at he
    split at he
    · cases he
      exact ⟨_, [], _, w, .here _ _, .configure k limit, ‹_›⟩
    · cases he

theorem run_eq_error_iff {s : Script M α} : run s w = .error ⟨k⟩ ↔ InsistsWithin s w k := by
  constructor
  · exact insistsWithin_of_error
  · rintro ⟨β, used, s', w', p, hi, hb⟩
    exact p.run_error (hi.run_error hb)

/-- A run comes to its end unless an administrative call finds the store in use. -/
theorem exists_run_of_not_insistsWithin {s : Script M α} (hs : ∀ k, ¬ InsistsWithin s w k) :
    ∃ o, run s w = .ok o := by
  cases hr : run s w with
  | ok o => exact ⟨o, rfl⟩
  | error a => exact absurd (run_eq_error_iff.1 hr) (hs a.type)

end HandleBridge.Script
