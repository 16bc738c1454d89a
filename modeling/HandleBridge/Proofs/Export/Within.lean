import HandleBridge.Proofs.Export.Courses

/-
  The points of a run.

  While a script is played, parts of it are played: the code of a method, the making of an
  instance. `Within` says from which world a part is played, and which stores are on loan then:
  those that a method, or an instance at its end, has in use further out.

  Proved:
  * `Within.isBorrowed_iff`: at every point the stores in use are those that were in use at the
    beginning and those on loan.
  * `Within.wellFormed`: the invariant of all stores holds at every point.
  * `Within.exists_run`: if the run comes to its end, so does every part of it.
  * `mem_moves_iff`: the moves of a run are those that the calls inside it make.
-/

namespace HandleBridge.Script

open World

variable {M : Catalog} {α : Type} {w w' : World M}

/-! ## Parts of a run -/

/-- While `s` is played from `w`, `s'` is played from `w'`. The stores that are then on loan, to a
method or to an instance that ends, are `used`, outermost first. -/
inductive Within : {α β : Type} → Script M α → World M → List (Fin M.count) →
    Script M β → World M → Prop where
  | here {α : Type} (s : Script M α) (w : World M) : Within s w [] s w
  | first {α β γ : Type} {s : Script M α} {next : α → Script M β} {w w' : World M}
      {used : List (Fin M.count)} {s' : Script M γ} :
      Within s w used s' w' → Within (after s next) w used s' w'
  | next {α β γ : Type} {s : Script M α} {next : α → Script M β} {w w' : World M}
      {used : List (Fin M.count)} {s' : Script M γ} {o : Outcome M α} :
      run s w = .ok o → Within (next o.value) o.world used s' w' →
        Within (after s next) w used s' w'
  | make {γ : Type} {k : Fin M.count} {s : Script M (M.Value k)} {drop : M.Value k → Script M Unit}
      {w w' : World M} {used : List (Fin M.count)} {s' : Script M γ} :
      Within s w used s' w' → Within (create k s drop) w used s' w'
  | drop {γ : Type} {k : Fin M.count} {s : Script M (M.Value k)} {drop : M.Value k → Script M Unit}
      {w w' : World M} {used : List (Fin M.count)} {s' : Script M γ} {o : Outcome M (M.Value k)}
      {cause : Fault} :
      run s w = .ok o → (o.world.register k o.value).result = .error cause →
        Within (drop o.value) ((o.world.register k o.value).state.setBorrowed k true) used s' w' →
          Within (create k s drop) w (k :: used) s' w'
  | method {α γ : Type} {k : Fin M.count} {raw : UInt32} {sentinel : α}
      {body : M.Value k → Script M (M.Value k × Layered α)} {v : M.Value k} {w w' : World M}
      {used : List (Fin M.count)} {s' : Script M γ} :
      w.isBorrowed k = false → (w.store k).get raw = .ok v →
        Within (body v) (w.setBorrowed k true) used s' w' →
          Within (withInstance k raw sentinel body) w (k :: used) s' w'
  | departure {α γ : Type} {k : Fin M.count} {how : Departure} {raw : UInt32} {sentinel : α}
      {body : M.Value k → Script M (Layered α)} {v : M.Value k} {w w' : World M}
      {used : List (Fin M.count)} {s' : Script M γ} :
      (w.remove k raw).result = .ok v → Within (body v) (w.remove k raw).state used s' w' →
        Within (take k how raw sentinel body) w used s' w'

theorem isBorrowed_of_run {s : Script M α} {o : Outcome M α} (hr : run s w = .ok o)
    (j : Fin M.count) : o.world.isBorrowed j = w.isBorrowed j :=
  (course_of_run s w hr).isBorrowed_eq j

theorem isBorrowed_setBorrowed_iff (w : World M) (k j : Fin M.count) :
    (w.setBorrowed k true).isBorrowed j = true ↔ j = k ∨ w.isBorrowed j = true := by
  by_cases hj : j = k
  · subst hj
    rw [isBorrowed_setBorrowed_same]
    exact ⟨fun _ => Or.inl rfl, fun _ => rfl⟩
  · rw [isBorrowed_setBorrowed_other _ hj]
    exact ⟨Or.inr, fun h => h.resolve_left hj⟩

/-- Inside a run the stores in use are those that were in use before, and those on loan. -/
theorem Within.isBorrowed_iff {β : Type} {s : Script M α} {used : List (Fin M.count)}
    {s' : Script M β} (p : Within s w used s' w') (j : Fin M.count) :
    w'.isBorrowed j = true ↔ w.isBorrowed j = true ∨ j ∈ used := by
  induction p with
  | here s w => simp
  | first p ih => exact ih
  | next hr p ih => rw [ih, isBorrowed_of_run hr]
  | make p ih => exact ih
  | drop hr he p ih =>
    rw [ih, isBorrowed_setBorrowed_iff, isBorrowed_register, isBorrowed_of_run hr, List.mem_cons]
    exact or_assoc.trans or_left_comm
  | method hb hg p ih =>
    rw [ih, isBorrowed_setBorrowed_iff, List.mem_cons]
    exact or_assoc.trans or_left_comm
  | departure he p ih => rw [ih, isBorrowed_remove]

/-- Inside an outermost call the stores in use are those on loan. -/
theorem Within.isBorrowed_iff_mem {β : Type} {s : Script M α} {used : List (Fin M.count)}
    {s' : Script M β} (p : Within s w used s' w') (hw : w.Idle) (k : Fin M.count) :
    w'.isBorrowed k = true ↔ k ∈ used := by
  rw [p.isBorrowed_iff, hw k]
  exact or_iff_right Bool.false_ne_true

theorem Within.wellFormed {β : Type} {s : Script M α} {used : List (Fin M.count)}
    {s' : Script M β} (p : Within s w used s' w') (hw : w.WellFormed) : w'.WellFormed := by
  induction p with
  | here s w => exact hw
  | first p ih => exact ih hw
  | next hr p ih => exact ih ((course_of_run _ _ hr).wellFormed hw)
  | make p ih => exact ih hw
  | drop hr he p ih =>
    have h₁ := (course_of_run _ _ hr).wellFormed hw
    exact ih (Course.wellFormed_setBorrowed ((Course.of_refused he).wellFormed h₁))
  | method hb hg p ih => exact ih (Course.wellFormed_setBorrowed hw)
  | departure he p ih => exact ih ((Course.of_remove he).wellFormed hw)

/-- A part of a run that is not aborted comes to its end, and its moves are among the moves of the
run, one after the other. -/
theorem Within.exists_run {β : Type} {s : Script M α} {used : List (Fin M.count)}
    {s' : Script M β} (p : Within s w used s' w') {o : Outcome M α} (hr : run s w = .ok o) :
    (∃ o', run s' w' = .ok o') ∧ moves s' w' <:+: moves s w := by
  induction p with
  | here s w => exact ⟨⟨o, hr⟩, List.infix_rfl⟩
  | first p ih =>
    obtain ⟨o₁, -, h₁, -, -, hm⟩ := run_after_cases hr
    obtain ⟨hr', hi⟩ := ih h₁
    rw [hm]
    exact ⟨hr', hi.trans (List.prefix_append _ _).isInfix⟩
  | next hr₁ p ih =>
    obtain ⟨o₁, o₂, h₁, h₂, -, hm⟩ := run_after_cases hr
    rw [hr₁] at h₁
    cases h₁
    obtain ⟨hr', hi⟩ := ih h₂
    rw [hm]
    exact ⟨hr', hi.trans (List.suffix_append _ _).isInfix⟩
  | make p ih =>
    obtain ⟨o₁, h₁, hc⟩ := run_create_cases hr
    obtain ⟨hr', hi⟩ := ih h₁
    refine ⟨hr', ?_⟩
    rcases hc with ⟨h, -, -, -, hm⟩ | ⟨cause, o₂, -, -, -, -, hm⟩
    all_goals
      rw [hm]
      exact hi.trans (List.prefix_append _ _).isInfix
  | drop hr₁ he p ih =>
    obtain ⟨o₁, h₁, hc⟩ := run_create_cases hr
    rw [hr₁] at h₁
    cases h₁
    rcases hc with ⟨h, he', -⟩ | ⟨cause, o₂, -, h₂, -, -, hm⟩
    · rw [he] at he'
      cases he'
    · obtain ⟨hr', hi⟩ := ih h₂
      rw [hm]
      exact ⟨hr', hi.trans (List.suffix_append _ _).isInfix⟩
  | method hb hg p ih =>
    obtain ⟨o₁, h₁, hm⟩ := run_withInstance_of_get hb hg hr
    obtain ⟨hr', hi⟩ := ih h₁
    rw [hm]
    exact ⟨hr', hi.trans (List.prefix_append _ _).isInfix⟩
  | departure he p ih =>
    rcases run_take_cases hr with ⟨cause, he', -⟩ | ⟨v, o₁, he', h₁, -, hm⟩
    · rw [he] at he'
      cases he'
    · rw [he] at he'
      cases he'
      obtain ⟨hr', hi⟩ := ih h₁
      rw [hm]
      exact ⟨hr', hi.trans (List.suffix_cons _ _).isInfix⟩

/-! ## Who makes a move -/

/-- The outermost call of the script makes the move. -/
inductive Makes : {α : Type} → Script M α → World M → (Σ k, Move (M.Value k)) → Prop where
  /-- A creation that answers a handle registers the instance that was made. -/
  | creation {k : Fin M.count} {make : Script M (M.Value k)} {drop : M.Value k → Script M Unit}
      {w : World M} {made : Outcome M (M.Value k)} {o : Outcome M UInt32} :
      run make w = .ok made → run (create k make drop) w = .ok o → o.value ≠ invalidHandle →
        Makes (create k make drop) w ⟨k, .registered o.value made.value⟩
  /-- A method that has an instance on loan changes it. -/
  | method {α : Type} {k : Fin M.count} {raw : UInt32} {sentinel : α}
      {body : M.Value k → Script M (M.Value k × Layered α)} {v : M.Value k} {w : World M}
      {o : Outcome M (M.Value k × Layered α)} :
      w.isBorrowed k = false → (w.store k).get raw = .ok v →
        run (body v) (w.setBorrowed k true) = .ok o →
          Makes (withInstance k raw sentinel body) w ⟨k, .changed raw o.value.1⟩
  /-- A method receives the instance that was taken out of its store. -/
  | departure {α : Type} {k : Fin M.count} {how : Departure} {raw : UInt32} {sentinel : α}
      {body : M.Value k → Script M (Layered α)} {v : M.Value k} {w : World M} :
      (w.remove k raw).result = .ok v →
        Makes (take k how raw sentinel body) w ⟨k, .received raw v⟩

variable {s : Script M α} {o : Outcome M α} {m : Σ k, Move (M.Value k)}

theorem Makes.mem_moves (c : Makes s w m) (hr : run s w = .ok o) : m ∈ moves s w := by
  cases c with
  | creation hm hc hne =>
    obtain ⟨o₁, h₁, ⟨h, -, hv, -, he⟩ | ⟨cause, o₂, -, -, hv, -⟩⟩ := run_create_cases hc
    · rw [hm] at h₁
      cases h₁
      rw [he, hv]
      exact List.mem_append_right _ (List.mem_singleton_self _)
    · exact absurd hv hne
  | method hb hg h₁ =>
    obtain ⟨o₁, h₁', he⟩ := run_withInstance_of_get hb hg hr
    rw [h₁] at h₁'
    cases h₁'
    rw [he]
    exact List.mem_append_right _ (List.mem_singleton_self _)
  | departure hv =>
    rcases run_take_cases hr with ⟨cause, hv', -⟩ | ⟨v, o₁, hv', -, -, he⟩
    · rw [hv] at hv'
      cases hv'
    · rw [hv] at hv'
      cases hv'
      rw [he]
      exact List.mem_cons_self

/-- Some call inside the run of a script makes the move. -/
def Made (s : Script M α) (w : World M) (m : Σ k, Move (M.Value k)) : Prop :=
  ∃ (β : Type) (used : List (Fin M.count)) (s' : Script M β) (w' : World M),
    Within s w used s' w' ∧ Makes s' w' m

/-- No move comes from nowhere: induction on the script, by the way in which its outermost call
goes. -/
theorem made_of_mem_moves (hr : run s w = .ok o) (hm : m ∈ moves s w) : Made s w m := by
  induction s generalizing w with
  | done value => cases hm
  | after first next ihf ihn =>
    obtain ⟨o₁, o₂, h₁, h₂, -, he⟩ := run_after_cases hr
    rw [he] at hm
    rcases List.mem_append.1 hm with hm | hm
    · obtain ⟨β, used, s', w', p, c⟩ := ihf h₁ hm
      exact ⟨β, used, s', w', .first p, c⟩
    · obtain ⟨β, used, s', w', p, c⟩ := ihn _ h₂ hm
      exact ⟨β, used, s', w', .next h₁ p, c⟩
  | create k make drop ihm ihd =>
    obtain ⟨o₁, h₁, ⟨h, -, hv, -, he⟩ | ⟨cause, o₂, hc, h₂, -, -, he⟩⟩ := run_create_cases hr
    all_goals
      rw [he] at hm
      rcases List.mem_append.1 hm with hm | hm
    · obtain ⟨β, used, s', w', p, c⟩ := ihm h₁ hm
      exact ⟨β, used, s', w', .make p, c⟩
    · rw [List.mem_singleton.1 hm, ← hv]
      have hne : o.value ≠ invalidHandle := hv ▸ h.raw_ne_invalidHandle
      exact ⟨_, _, _, _, .here _ _, .creation h₁ hr hne⟩
    · obtain ⟨β, used, s', w', p, c⟩ := ihm h₁ hm
      exact ⟨β, used, s', w', .make p, c⟩
    · obtain ⟨β, used, s', w', p, c⟩ := ihd _ h₂ hm
      exact ⟨β, k :: used, s', w', .drop h₁ hc p, c⟩
  | withInstance k raw sentinel body ih =>
    rcases run_withInstance_cases hr with ⟨-, he⟩ | ⟨v, o₁, hb, hg, h₁, -, he⟩
    · rw [he] at hm
      cases hm
    · rw [he] at hm
      rcases List.mem_append.1 hm with hm | hm
      · obtain ⟨β, used, s', w', p, c⟩ := ih v h₁ hm
        exact ⟨β, k :: used, s', w', .method hb hg p, c⟩
      · rw [List.mem_singleton.1 hm]
        exact ⟨_, _, _, _, .here _ _, .method hb hg h₁⟩
  | take k how raw sentinel body ih =>
    rcases run_take_cases hr with ⟨cause, -, -, he⟩ | ⟨v, o₁, hv, h₁, -, he⟩
    · rw [he] at hm
      cases hm
    · rw [he] at hm
      rcases List.mem_cons.1 hm with rfl | hm
      · exact ⟨_, _, _, _, .here _ _, .departure hv⟩
      · obtain ⟨β, used, s', w', p, c⟩ := ih v h₁ hm
        exact ⟨β, used, s', w', .departure hv p, c⟩
  | allocator => cases hm
  | note event => cases hm
  | liveInstances k => cases hm
  | configure k limit => cases hm

/-- The moves of a run are those that the calls inside it make. -/
theorem mem_moves_iff (hr : run s w = .ok o) : m ∈ moves s w ↔ Made s w m := by
  constructor
  · exact made_of_mem_moves hr
  · rintro ⟨β, used, s', w', p, c⟩
    obtain ⟨⟨o', hr'⟩, hi⟩ := p.exists_run hr
    exact hi.subset (c.mem_moves hr')

end HandleBridge.Script
