import HandleBridge.Proofs.Export.Borrowing

/-
  Calls from inside a method on the type that the method has on loan.

  A nested call on instances is answered whatever is on loan: with the sentinel if its store is,
  and otherwise as from outside. The administrative calls are not: one that asks for a store on
  loan aborts everything up to the outermost call. So the outermost call returns exactly if no
  administrative call inside it asks for a store that is then on loan.

  Proved:
  * `answers_of_iff`: how the calls fare at one point of a run.
  * `insistsWithin_iff`: the stores in use in the middle of a run from outside are those on loan.
  * `returns_unless_asked_on_loan`: both for every run.
-/

namespace HandleBridge.Script

open World

variable {M : Catalog} {α : Type} {k : Fin M.count} {w : World M}

/-- How calls are answered at a point of a run where the stores `used` are on loan. -/
structure Answers (used : List (Fin M.count)) (w : World M) : Prop where
  /-- Calls on the instances of a type on loan get the sentinel. -/
  turnedAway : ∀ k ∈ used, TurnedAway k w
  served : ∀ k, k ∉ used → Served k w
  counted : ∀ k, k ∉ used → run (liveInstances k) w = .ok ⟨w.live k, w, []⟩
  configured : ∀ k limit, k ∉ used →
    run (configure k limit) w = .ok ⟨(), w.configure k limit, []⟩
  /-- An administrative call on a type on loan gets no answer. -/
  insisted : ∀ {α : Type} {s : Script M α}, ∀ k ∈ used, s.Insists k → run s w = .error ⟨k⟩

theorem answers_of_iff {used : List (Fin M.count)} (hb : ∀ k, w.isBorrowed k = true ↔ k ∈ used) :
    Answers used w := by
  have free : ∀ k, k ∉ used → w.isBorrowed k = false :=
    fun k hk => Bool.eq_false_iff.2 fun h => hk ((hb k).1 h)
  constructor
  · exact fun k hk => turnedAway_of_borrowed ((hb k).2 hk)
  · exact fun k hk => served_of_free (free k hk)
  · intro k hk
    rw [run, if_neg (Bool.eq_false_iff.1 (free k hk))]
  · intro k limit hk
    rw [run, if_neg (Bool.eq_false_iff.1 (free k hk))]
  · exact fun k hk hi => hi.run_error ((hb k).2 hk)

/-- While the outermost call `s` is played from `w`, an administrative call asks for the store of
`k` that a method, or an instance at its end, has on loan. -/
def AskedOnLoan (s : Script M α) (w : World M) (k : Fin M.count) : Prop :=
  ∃ (β : Type) (used : List (Fin M.count)) (s' : Script M β) (w' : World M),
    Within s w used s' w' ∧ s'.Insists k ∧ k ∈ used

theorem insistsWithin_iff {s : Script M α} (hw : w.Idle) :
    InsistsWithin s w k ↔ AskedOnLoan s w k := by
  constructor
  · rintro ⟨β, used, s', w', p, hi, hb⟩
    exact ⟨β, used, s', w', p, hi, (p.isBorrowed_iff_mem hw k).1 hb⟩
  · rintro ⟨β, used, s', w', p, hi, hu⟩
    exact ⟨β, used, s', w', p, hi, (p.isBorrowed_iff_mem hw k).2 hu⟩

/-- The outermost call returns, and leaves no store in use, unless an administrative call inside
it asks for a store on loan; then it is aborted. Every other call inside it is answered. -/
theorem returns_unless_asked_on_loan (s : Script M α) (hw : w.Idle) :
    ((∃ o, run s w = .ok o ∧ o.world.Idle) ↔ ∀ k, ¬ AskedOnLoan s w k) ∧
      (∀ k, run s w = .error ⟨k⟩ ↔ AskedOnLoan s w k) ∧
      ∀ {β : Type} {used : List (Fin M.count)} {s' : Script M β} {w' : World M},
        Within s w used s' w' → Answers used w' := by
  have aborted : ∀ k, run s w = .error ⟨k⟩ ↔ AskedOnLoan s w k :=
    fun k => run_eq_error_iff.trans (insistsWithin_iff hw)
  refine ⟨⟨?_, ?_⟩, aborted, ?_⟩
  · rintro ⟨o, ho, -⟩ k hk
    rw [(aborted k).2 hk] at ho
    cases ho
  · intro hs
    obtain ⟨o, ho⟩ := exists_run_of_not_insistsWithin fun k hk => hs k ((insistsWithin_iff hw).1 hk)
    exact ⟨o, ho, fun k => (isBorrowed_of_run ho k).trans (hw k)⟩
  · exact fun p => answers_of_iff (p.isBorrowed_iff_mem hw)

/-! ## A node that counts the nodes -/

open Sample

/-- A node is made, and counts the nodes from inside one of its methods. -/
def countInside : Script catalog Nat :=
  .after (Node.create 0) fun raw =>
    .withInstance nodeType raw 0 fun (n : Node) =>
      .after (.liveInstances nodeType) fun count => .done (n, .bare count)

theorem run_countInside :
    run countInside (World.empty catalog (Heap.capped 8388608)) = .error ⟨nodeType⟩ := rfl

theorem count_inside_asks_on_loan :
    AskedOnLoan countInside (World.empty catalog (Heap.capped 8388608)) nodeType ∧
      ¬ ∃ o, run countInside (World.empty catalog (Heap.capped 8388608)) = .ok o ∧
        o.world.Idle := by
  have h := returns_unless_asked_on_loan countInside
    (isBorrowed_empty (M := catalog) (Heap.capped 8388608))
  have ha := (h.2.1 nodeType).1 run_countInside
  exact ⟨ha, fun ho => h.1.1 ho nodeType ha⟩

/-- Not every call from outside returns. -/
theorem count_inside_never_returns :
    ¬ ∀ (s : Script catalog Nat) (w : World catalog), w.Idle → ∃ o, run s w = .ok o := by
  intro h
  obtain ⟨o, ho⟩ := h countInside _ (isBorrowed_empty (M := catalog) (Heap.capped 8388608))
  rw [run_countInside] at ho
  cases ho

end HandleBridge.Script
