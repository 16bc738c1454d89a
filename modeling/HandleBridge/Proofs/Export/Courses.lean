import HandleBridge.Proofs.Export.Calls
import HandleBridge.Proofs.Store.Ledger

/-
  What a script does to the stores, move by move.

  A run is a tree of calls. Seen from the stores it is a course: registrations and removals on
  stores that are free, and stretches during which one store is lent to a method and given back
  at the end. `moves` lists what happens to instances along the way, in order: they are
  registered, changed by a method, and received for good by another one. What every run keeps is
  proved of courses, by induction; the tree of calls is taken apart once, in `course_of_run`.

  Proved:
  * `course_of_run`: a run that is not aborted takes its course.
  * `Course.isBorrowed_eq`: at the end a store is in use exactly if it was in use before.
  * `Course.store_of_borrowed`: nothing happens to a store in use.
  * `Course.trail`: seen from one store a course is a sequence of steps.
-/

namespace HandleBridge

variable {M : Catalog} {α : Type} {j k : Fin M.count} {raw : UInt32} {w w' : World M}
  {v : M.Value k}

namespace Script

open World

/-! ## Moves -/

/-- Moves of instances of all types, in order. -/
abbrev Moves (M : Catalog) := List (Σ k, Move (M.Value k))

/-- The moves of instances of one type. -/
def movesOn (k : Fin M.count) (ms : Moves M) : List (Move (M.Value k)) :=
  ms.filterMap fun m => if h : m.1 = k then some (h ▸ m.2) else none

theorem movesOn_append (k : Fin M.count) (ms ms' : Moves M) :
    movesOn k (ms ++ ms') = movesOn k ms ++ movesOn k ms' := List.filterMap_append

theorem movesOn_same (m : Move (M.Value k)) : movesOn k [⟨k, m⟩] = [m] := by
  unfold movesOn
  rw [List.filterMap_cons, dif_pos rfl]
  rfl

theorem movesOn_other (m : Move (M.Value k)) (hj : k ≠ j) : movesOn j [⟨k, m⟩] = [] := by
  unfold movesOn
  rw [List.filterMap_cons, dif_neg hj]
  rfl

/-- What a script that is not aborted does to instances. -/
def moves : {α : Type} → Script M α → World M → Moves M
  | _, done _, _ => []
  | _, after first next, w =>
    match run first w with
    | .error _ => []
    | .ok o => moves first w ++ moves (next o.value) o.world
  | _, create k make drop, w =>
    match run make w with
    | .error _ => []
    | .ok ⟨v, w', _⟩ =>
      moves make w ++
        match (w'.register k v).result with
        | .ok h => [⟨k, .registered h.raw v⟩]
        | .error _ => moves (drop v) ((w'.register k v).state.setBorrowed k true)
  | _, withInstance k raw _ body, w =>
    if w.isBorrowed k then []
    else
      match (w.store k).get raw with
      | .error _ => []
      | .ok v =>
        match run (body v) (w.setBorrowed k true) with
        | .error _ => []
        | .ok o => moves (body v) (w.setBorrowed k true) ++ [⟨k, .changed raw o.value.1⟩]
  | _, take k _ raw _ body, w =>
    match (w.remove k raw).result with
    | .error _ => []
    | .ok v => ⟨k, .received raw v⟩ :: moves (body v) (w.remove k raw).state
  | _, allocator, _ => []
  | _, note _, _ => []
  | _, liveInstances _, _ => []
  | _, configure _ _, _ => []

/-- The course from one world to another, with the moves on the way. -/
inductive Course : World M → Moves M → World M → Prop where
  | rest (w : World M) : Course w [] w
  | onward {w₁ w₂ w₃ : World M} {ms ms' : Moves M} (first : Course w₁ ms w₂)
      (next : Course w₂ ms' w₃) : Course w₁ (ms ++ ms') w₃
  | ticked (w : World M) : Course w [] w.ticked
  | limited {w : World M} {k : Fin M.count} (limit : StoreLimit) :
      w.isBorrowed k = false → Course w [] (w.withStore k ((w.store k).setLimit limit))
  | registered {w : World M} {k : Fin M.count} {v : M.Value k} {h : Handle} :
      w.isBorrowed k = false → (w.insert k v).result = .ok h →
        Course w [⟨k, .registered h.raw v⟩] (w.insert k v).state
  | refused {w : World M} {k : Fin M.count} {v : M.Value k} {cause : Fault} :
      w.isBorrowed k = false → (w.insert k v).result = .error cause →
        Course w [] (w.insert k v).state
  | received {w : World M} {k : Fin M.count} {raw : UInt32} {h : Handle} {v : M.Value k} :
      w.isBorrowed k = false → (w.store k).lookup raw = some (h, v) →
        Course w [⟨k, .received raw v⟩] (w.withStore k ((w.store k).remove raw).state)
  /-- A method has an instance on loan. -/
  | lent {w w' : World M} {k : Fin M.count} {raw : UInt32} {h : Handle} {v : M.Value k}
      {ms : Moves M} (v' : M.Value k) : w.isBorrowed k = false →
        (w.store k).lookup raw = some (h, v) → Course (w.setBorrowed k true) ms w' →
          Course w (ms ++ [⟨k, .changed raw v'⟩]) (giveBack w' k raw v')
  /-- An instance that found no place ends. -/
  | dropped {w w' : World M} {k : Fin M.count} {ms : Moves M} :
      Course (w.setBorrowed k true) ms w' →
        Course w ms (w'.setBorrowed k (w.isBorrowed k))

/-! ## What a call comes to -/

section Cases

variable {o : Outcome M α}

theorem run_after_cases {β : Type} {first : Script M β} {next : β → Script M α}
    (hr : run (after first next) w = .ok o) :
    ∃ o₁ o₂, run first w = .ok o₁ ∧ run (next o₁.value) o₁.world = .ok o₂ ∧
      o = { o₂ with events := o₁.events ++ o₂.events } ∧
      moves (after first next) w = moves first w ++ moves (next o₁.value) o₁.world := by
  rw [run] at hr
  rw [moves]
  cases h₁ : run first w with
  | error a =>
    rw [h₁] at hr
    cases hr
  | ok o₁ =>
    rw [h₁] at hr
    dsimp only at hr
    cases h₂ : run (next o₁.value) o₁.world with
    | error a =>
      rw [h₂] at hr
      cases hr
    | ok o₂ =>
      rw [h₂] at hr
      cases hr
      exact ⟨o₁, o₂, rfl, h₂, rfl, rfl⟩

theorem run_create_cases {make : Script M (M.Value k)} {drop : M.Value k → Script M Unit}
    {o : Outcome M UInt32} (hr : run (create k make drop) w = .ok o) :
    ∃ o₁, run make w = .ok o₁ ∧
      ((∃ h, (o₁.world.register k o₁.value).result = .ok h ∧ o.value = h.raw ∧
          o.world = (o₁.world.register k o₁.value).state ∧
          moves (create k make drop) w = moves make w ++ [⟨k, .registered h.raw o₁.value⟩]) ∨
        ∃ cause o₂, (o₁.world.register k o₁.value).result = .error cause ∧
          run (drop o₁.value) ((o₁.world.register k o₁.value).state.setBorrowed k true) = .ok o₂ ∧
          o.value = invalidHandle ∧ o.world = o₂.world.setBorrowed k (o₁.world.isBorrowed k) ∧
          moves (create k make drop) w = moves make w ++
            moves (drop o₁.value) ((o₁.world.register k o₁.value).state.setBorrowed k true)) := by
  rw [run_create_eq] at hr
  rw [moves]
  cases h₁ : run make w with
  | error a =>
    rw [h₁] at hr
    cases hr
  | ok o₁ =>
    obtain ⟨v, w₁, es⟩ := o₁
    rw [h₁] at hr
    refine ⟨_, rfl, ?_⟩
    dsimp only at hr ⊢
    cases h₂ : (w₁.register k v).result with
    | ok h =>
      rw [h₂] at hr
      cases hr
      exact Or.inl ⟨h, rfl, rfl, rfl, rfl⟩
    | error cause =>
      rw [h₂] at hr
      dsimp only at hr
      cases h₃ : run (drop v) ((w₁.register k v).state.setBorrowed k true) with
      | error a =>
        rw [h₃] at hr
        cases hr
      | ok o₂ =>
        rw [h₃] at hr
        cases hr
        exact Or.inr ⟨cause, o₂, rfl, rfl, rfl, rfl, rfl⟩

theorem run_withInstance_of_get {sentinel : α}
    {body : M.Value k → Script M (M.Value k × Layered α)} (hb : w.isBorrowed k = false)
    (hg : (w.store k).get raw = .ok v) (hr : run (withInstance k raw sentinel body) w = .ok o) :
    ∃ o₁, run (body v) (w.setBorrowed k true) = .ok o₁ ∧
      moves (withInstance k raw sentinel body) w =
        moves (body v) (w.setBorrowed k true) ++ [⟨k, .changed raw o₁.value.1⟩] := by
  rw [run, if_neg (Bool.eq_false_iff.1 hb), hg] at hr
  rw [moves, if_neg (Bool.eq_false_iff.1 hb), hg]
  dsimp only at hr ⊢
  cases h₁ : run (body v) (w.setBorrowed k true) with
  | error a =>
    rw [h₁] at hr
    cases hr
  | ok o₁ => exact ⟨o₁, rfl, rfl⟩

theorem run_withInstance_cases {sentinel : α}
    {body : M.Value k → Script M (M.Value k × Layered α)}
    (hr : run (withInstance k raw sentinel body) w = .ok o) :
    (o.world = w ∧ moves (withInstance k raw sentinel body) w = []) ∨
      ∃ v o₁, w.isBorrowed k = false ∧ (w.store k).get raw = .ok v ∧
        run (body v) (w.setBorrowed k true) = .ok o₁ ∧
        o.world = giveBack o₁.world k raw o₁.value.1 ∧
        moves (withInstance k raw sentinel body) w =
          moves (body v) (w.setBorrowed k true) ++ [⟨k, .changed raw o₁.value.1⟩] := by
  rw [run] at hr
  rw [moves]
  cases hb : w.isBorrowed k with
  | true =>
    rw [if_pos hb] at hr
    cases hr
    exact Or.inl ⟨rfl, if_pos rfl⟩
  | false =>
    rw [if_neg (Bool.eq_false_iff.1 hb)] at hr
    rw [if_neg Bool.false_ne_true]
    cases hg : (w.store k).get raw with
    | error cause =>
      rw [hg] at hr
      cases hr
      exact Or.inl ⟨rfl, rfl⟩
    | ok v =>
      rw [hg] at hr
      dsimp only at hr ⊢
      cases h₁ : run (body v) (w.setBorrowed k true) with
      | error a =>
        rw [h₁] at hr
        cases hr
      | ok o₁ =>
        rw [h₁] at hr
        cases hr
        exact Or.inr ⟨v, o₁, rfl, rfl, h₁, rfl, rfl⟩

theorem run_take_cases {how : Departure} {sentinel : α} {body : M.Value k → Script M (Layered α)}
    (hr : run (take k how raw sentinel body) w = .ok o) :
    (∃ cause, (w.remove k raw).result = .error cause ∧ o.world = (w.remove k raw).state ∧
        moves (take k how raw sentinel body) w = []) ∨
      ∃ v o₁, (w.remove k raw).result = .ok v ∧ run (body v) (w.remove k raw).state = .ok o₁ ∧
        o.world = o₁.world ∧ moves (take k how raw sentinel body) w =
          ⟨k, .received raw v⟩ :: moves (body v) (w.remove k raw).state := by
  rw [run_take_eq] at hr
  rw [moves]
  cases h₁ : (w.remove k raw).result with
  | error cause =>
    rw [h₁] at hr
    cases hr
    exact Or.inl ⟨cause, rfl, rfl, rfl⟩
  | ok v =>
    rw [h₁] at hr
    dsimp only at hr
    cases h₂ : run (body v) (w.remove k raw).state with
    | error a =>
      rw [h₂] at hr
      cases hr
    | ok o₁ =>
      rw [h₂] at hr
      cases hr
      exact Or.inr ⟨v, o₁, rfl, h₂, rfl, rfl⟩

theorem run_configure_cases {limit : StoreLimit} {o : Outcome M Unit}
    (hr : run (configure k limit) w = .ok o) :
    w.isBorrowed k = false ∧ o.world = w.withStore k ((w.store k).setLimit limit) := by
  rw [run] at hr
  cases hb : w.isBorrowed k with
  | true =>
    rw [if_pos hb] at hr
    cases hr
  | false =>
    rw [if_neg (Bool.eq_false_iff.1 hb)] at hr
    cases hr
    unfold World.configure
    rw [onStore_eq]
    exact ⟨rfl, rfl⟩

end Cases

/-! ## A run takes its course -/

theorem Course.of_register {h : Handle} (he : (w.register k v).result = .ok h) :
    Course w [⟨k, .registered h.raw v⟩] (w.register k v).state := by
  cases hb : w.isBorrowed k with
  | true =>
    rw [register_of_borrowed hb] at he
    cases he
  | false =>
    rw [register_of_free hb] at he ⊢
    exact .registered hb he

theorem Course.of_refused {cause : Fault} (he : (w.register k v).result = .error cause) :
    Course w [] (w.register k v).state := by
  cases hb : w.isBorrowed k with
  | true =>
    rw [register_of_borrowed hb]
    exact .rest w
  | false =>
    rw [register_of_free hb] at he ⊢
    exact .refused hb he

theorem lookup_of_remove (he : (w.remove k raw).result = .ok v) :
    w.isBorrowed k = false ∧ (∃ h, (w.store k).lookup raw = some (h, v)) ∧
      (w.remove k raw).state = w.withStore k ((w.store k).remove raw).state := by
  cases hb : w.isBorrowed k with
  | true =>
    rw [remove_of_borrowed hb] at he
    cases he
  | false =>
    rw [remove_of_free hb] at he ⊢
    refine ⟨rfl, ?_, rfl⟩
    cases hl : (w.store k).lookup raw with
    | none =>
      rw [Store.remove_error hl] at he
      cases he
    | some p =>
      obtain ⟨h, u⟩ := p
      rw [(Store.remove_ok hl).1] at he
      cases he
      exact ⟨h, rfl⟩

theorem state_of_remove_error {cause : Fault} (he : (w.remove k raw).result = .error cause) :
    (w.remove k raw).state = w := by
  cases hb : w.isBorrowed k with
  | true =>
    rw [remove_of_borrowed hb]
    rfl
  | false =>
    rw [remove_of_free hb] at he ⊢
    cases hl : (w.store k).lookup raw with
    | none =>
      rw [Store.remove_error hl]
      exact withStore_store w k
    | some p =>
      rw [(Store.remove_ok hl).1] at he
      cases he

theorem Course.of_remove (he : (w.remove k raw).result = .ok v) :
    Course w [⟨k, .received raw v⟩] (w.remove k raw).state := by
  obtain ⟨hb, ⟨h, hl⟩, hs⟩ := lookup_of_remove he
  rw [hs]
  exact .received hb hl

/-- Every run that is not aborted takes a course with its moves. -/
theorem course_of_run (s : Script M α) (w : World M) {o : Outcome M α} (hr : run s w = .ok o) :
    Course w (moves s w) o.world := by
  induction s generalizing w with
  | done value =>
    cases hr
    exact .rest w
  | after first next ihf ihn =>
    obtain ⟨o₁, o₂, h₁, h₂, rfl, hm⟩ := run_after_cases hr
    have hn := ihn _ _ h₂
    rw [hm]
    exact (ihf w h₁).onward hn
  | create k make drop ihm ihd =>
    obtain ⟨o₁, h₁, ⟨h, he, -, hw, hm⟩ | ⟨cause, o₂, he, h₂, -, hw, hm⟩⟩ := run_create_cases hr
    · rw [hm, hw]
      exact (ihm w h₁).onward (.of_register he)
    · rw [hm, hw, ← isBorrowed_register o₁.world o₁.value k]
      refine (ihm w h₁).onward ?_
      exact (Course.of_refused he).onward (.dropped (ihd _ _ h₂))
  | withInstance k raw sentinel body ih =>
    rcases run_withInstance_cases hr with ⟨hw, hm⟩ | ⟨v, o₁, hb, hg, h₁, hw, hm⟩
    · rw [hw, hm]
      exact .rest w
    · obtain ⟨h, hl⟩ := lookup_of_get hg
      rw [hw, hm]
      exact .lent o₁.value.1 hb hl (ih v _ h₁)
  | take k how raw sentinel body ih =>
    rcases run_take_cases hr with ⟨cause, he, hw, hm⟩ | ⟨v, o₁, he, h₁, hw, hm⟩
    · rw [hw, hm, state_of_remove_error he]
      exact .rest w
    · rw [hw, hm]
      exact (Course.of_remove he).onward (ih v _ h₁)
  | allocator =>
    cases hr
    exact .ticked w
  | note event =>
    cases hr
    exact .rest w
  | liveInstances k =>
    rw [run] at hr
    split at hr
    · cases hr
    · cases hr
      exact .rest w
  | configure k limit =>
    obtain ⟨hb, hw⟩ := run_configure_cases hr
    rw [hw]
    exact .limited limit hb

/-! ## What every course keeps -/

namespace Course

variable {ms : Moves M}

/-- Whoever marks a store as in use takes the mark away again. -/
theorem isBorrowed_eq (c : Course w ms w') (j : Fin M.count) :
    w'.isBorrowed j = w.isBorrowed j := by
  induction c with
  | rest w => rfl
  | onward first next ih₁ ih₂ => rw [ih₂, ih₁]
  | ticked w => rfl
  | limited limit hb => exact isBorrowed_withStore _ _ j
  | registered hb he => rw [insert_eq, isBorrowed_withStore, isBorrowed_ticked]
  | refused hb he => rw [insert_eq, isBorrowed_withStore, isBorrowed_ticked]
  | received hb hl => exact isBorrowed_withStore _ _ j
  | @lent w w' k raw h v ms v' hb hl c ih =>
    by_cases hj : j = k
    · subst hj
      rw [isBorrowed_giveBack_same, hb]
    · rw [isBorrowed_giveBack_other _ _ _ hj, ih, isBorrowed_setBorrowed_other _ hj]
  | @dropped w w' k ms c ih =>
    by_cases hj : j = k
    · subst hj
      rw [isBorrowed_setBorrowed_same]
    · rw [isBorrowed_setBorrowed_other _ hj, ih, isBorrowed_setBorrowed_other _ hj]

theorem store_insert_other (w : World M) (v : M.Value k) (hj : j ≠ k) :
    (w.insert k v).state.store j = w.store j := by
  rw [insert_eq, store_withStore_other _ _ hj, store_ticked]

/-- Nothing happens to a store in use. -/
theorem store_of_borrowed (c : Course w ms w') (hj : w.isBorrowed j = true) :
    w'.store j = w.store j := by
  have free_ne : ∀ {w : World M} {k : Fin M.count}, w.isBorrowed k = false →
      w.isBorrowed j = true → j ≠ k := by
    rintro w k hb hj rfl
    rw [hb] at hj
    cases hj
  induction c with
  | rest w => rfl
  | onward first next ih₁ ih₂ =>
    rw [ih₂ (by rw [first.isBorrowed_eq]; exact hj), ih₁ hj]
  | ticked w => rfl
  | limited limit hb => exact store_withStore_other _ _ (free_ne hb hj)
  | registered hb he => exact store_insert_other _ _ (free_ne hb hj)
  | refused hb he => exact store_insert_other _ _ (free_ne hb hj)
  | received hb hl => exact store_withStore_other _ _ (free_ne hb hj)
  | lent v' hb hl c ih =>
    have hn := free_ne hb hj
    rw [store_giveBack_other _ _ _ hn, ih (by rw [isBorrowed_setBorrowed_other _ hn]; exact hj),
      store_setBorrowed]
  | @dropped w w' k ms c ih =>
    have hb : (w.setBorrowed k true).isBorrowed j = true := by
      by_cases hk : j = k
      · subst hk
        exact isBorrowed_setBorrowed_same _ _ _
      · rw [isBorrowed_setBorrowed_other _ hk]
        exact hj
    rw [store_setBorrowed, ih hb, store_setBorrowed]

/-- A method that had an instance on loan puts it back where it was. -/
theorem changes_of_lent {h : Handle} (hl : (w.store k).lookup raw = some (h, v))
    (c : Course (w.setBorrowed k true) ms w') (v' : M.Value k) :
    (w.store k).Changes h v v' ((giveBack w' k raw v').store k) := by
  have hs := c.store_of_borrowed (isBorrowed_setBorrowed_same w k true)
  rw [store_giveBack_same, hs, store_setBorrowed]
  exact Store.set_of_lookup hl v'

/-- What a registration does to the stores. -/
theorem trail_register (hw : w.WellFormed) {h : Handle} (he : (w.insert k v).result = .ok h)
    (j : Fin M.count) : Store.Trail (w.store j) (movesOn j [⟨k, .registered h.raw v⟩])
      ((w.insert k v).state.store j) := by
  by_cases hj : j = k
  · subst hj
    rw [insert_eq] at he ⊢
    rw [movesOn_same, store_withStore]
    exact .issued (Store.insert_ok (hw j) he)
  · rw [movesOn_other _ (Ne.symm hj), store_insert_other _ _ hj]
    exact .rest _

theorem state_of_insert_error (hw : w.WellFormed) {cause : Fault}
    (he : (w.insert k v).result = .error cause) (j : Fin M.count) :
    (w.insert k v).state.store j = w.store j := by
  by_cases hj : j = k
  · subst hj
    rw [insert_eq] at he ⊢
    rw [store_withStore, Store.insert_error (hw j) he]
    rfl
  · exact store_insert_other _ _ hj

theorem trail_remove {h : Handle} (hl : (w.store k).lookup raw = some (h, v)) (j : Fin M.count) :
    Store.Trail (w.store j) (movesOn j [⟨k, .received raw v⟩])
      ((w.withStore k ((w.store k).remove raw).state).store j) := by
  by_cases hj : j = k
  · subst hj
    rw [movesOn_same, store_withStore, ← Store.raw_of_lookup hl]
    rw [← Store.raw_of_lookup hl] at hl
    exact .ended (Store.remove_ok hl).2
  · rw [movesOn_other _ (Ne.symm hj), store_withStore_other _ _ hj]
    exact .rest _

theorem wellFormed_setBorrowed {b : Bool} (hw : w.WellFormed) :
    (w.setBorrowed k b).WellFormed := by
  intro j
  rw [store_setBorrowed]
  exact hw j

/-- Seen from one store a course is a trail. -/
theorem trail (c : Course w ms w') (hw : w.WellFormed) (j : Fin M.count) :
    Store.Trail (w.store j) (movesOn j ms) (w'.store j) := by
  induction c generalizing j with
  | rest w => exact .rest _
  | onward first next ih₁ ih₂ =>
    have hw₂ : World.WellFormed _ := fun i => (ih₁ hw i).wellFormed (hw i)
    rw [movesOn_append]
    exact (ih₁ hw j).onward (ih₂ hw₂ j)
  | ticked w => exact .rest _
  | @limited w k limit hb =>
    by_cases hj : j = k
    · subst hj
      rw [store_withStore]
      exact .limited _ limit
    · rw [store_withStore_other _ _ hj]
      exact .rest _
  | registered hb he => exact trail_register hw he j
  | refused hb he =>
    rw [state_of_insert_error hw he j]
    exact .rest _
  | received hb hl => exact trail_remove hl j
  | @lent w w' k raw h v ms v' hb hl c ih =>
    have ht := ih (wellFormed_setBorrowed hw) j
    rw [store_setBorrowed] at ht
    rw [movesOn_append]
    refine ht.onward ?_
    by_cases hj : j = k
    · subst hj
      have hs := c.store_of_borrowed (isBorrowed_setBorrowed_same w j true)
      rw [store_setBorrowed] at hs
      rw [movesOn_same, hs, ← Store.raw_of_lookup hl]
      rw [← Store.raw_of_lookup hl] at hl
      exact .changed (changes_of_lent hl c v')
    · rw [movesOn_other _ (Ne.symm hj), store_giveBack_other _ _ _ hj]
      exact .rest _
  | dropped c ih =>
    have ht := ih (wellFormed_setBorrowed hw) j
    rw [store_setBorrowed] at ht
    rw [store_setBorrowed]
    exact ht

theorem wellFormed (c : Course w ms w') (hw : w.WellFormed) : w'.WellFormed :=
  fun j => (c.trail hw j).wellFormed (hw j)

end Course

end Script

end HandleBridge
