import HandleBridge.Source.Parser

/-
  What a parser answers, and what it leaves.

  `Keeps I p P` says that `p` keeps a property `I` of the row and that whatever it answers satisfies
  `P`. It goes through sequences, choices, groups and repetitions, so a parser is settled by those
  that it is made of.

  Proved:
  * `Keeps.bind`, `Keeps.ite`, `Keeps.orElse`: sequences and choices.
  * `keeps_inGroup`, `keeps_manyUpTo`: groups and repetitions.
  * `Keeps.of_runOn`: the answer for a whole row.
-/

namespace HandleBridge.Source.Parser

variable {α β : Type}

/-- From a row with the property `I` the parser leaves one with this property, and its answer
satisfies `P`. -/
def Keeps (I : Row → Prop) (p : Parser α) (P : α → Prop) : Prop :=
  ∀ row a row', I row → p.run row = .ok (a, row') → P a ∧ I row'

namespace Keeps

variable {I : Row → Prop} {P : α → Prop} {Q : β → Prop} {p q : Parser α} {f : α → Parser β}

/-- The answer may not matter. -/
theorem anyhow (h : Keeps I p P) : Keeps I p fun _ => True :=
  fun row a row' hi hr => ⟨trivial, (h row a row' hi hr).2⟩

theorem pure {a : α} (h : P a) : Keeps I (Pure.pure a) P := by
  intro row a' row' hi hr
  cases hr
  exact ⟨h, hi⟩

theorem done {a : α} : Keeps I (Pure.pure a) fun _ => True := pure trivial

theorem throw {e : ParseFault} : Keeps I (MonadExcept.throw e : Parser α) P := by
  intro row a row' _ hr
  cases hr

theorem bind (hp : Keeps I p P) (hf : ∀ a, P a → Keeps I (f a) Q) : Keeps I (p >>= f) Q := by
  intro row b row' hi hr
  rw [StateT.run_bind] at hr
  cases h : p.run row with
  | error e =>
    rw [h] at hr
    cases hr
  | ok r =>
    obtain ⟨a, mid⟩ := r
    rw [h] at hr
    obtain ⟨ha, hm⟩ := hp row a mid hi h
    exact hf a ha mid b row' hm hr

theorem andThen (hp : Keeps I p fun _ => True) (hf : ∀ a, Keeps I (f a) Q) : Keeps I (p >>= f) Q :=
  bind hp fun a _ => hf a

theorem ite {c : Prop} [Decidable c] (hp : Keeps I p P) (hq : Keeps I q P) :
    Keeps I (if c then p else q) P := by
  split
  · exact hp
  · exact hq

/-- Something may be taken before a parser that goes on alike in both cases. -/
theorem whenever {c : Prop} [Decidable c] {r : Parser β} (hr : Keeps I r fun _ => True)
    (hp : Keeps I p P) : Keeps I (if c then r >>= fun _ => p else p) P :=
  ite (andThen hr fun _ => hp) hp

theorem otherwise {c : Prop} [Decidable c] {r : Parser β} (hr : Keeps I r fun _ => True)
    (hp : Keeps I p P) : Keeps I (if c then p else r >>= fun _ => p) P :=
  ite hp (andThen hr fun _ => hp)

theorem either {c : Prop} [Decidable c] (hp : Keeps I p P) (hq : Keeps I q P)
    (hf : ∀ a, P a → Keeps I (f a) Q) : Keeps I (if c then p >>= f else q >>= f) Q :=
  ite (bind hp hf) (bind hq hf)

theorem map {g : α → β} (hp : Keeps I p fun a => Q (g a)) : Keeps I (g <$> p) Q :=
  bind hp fun _ ha => pure ha

theorem get : Keeps I (MonadState.get : Parser Row) I := by
  intro row a row' hi hr
  cases hr
  exact ⟨hi, hi⟩

/-- The row may be looked at without a reason. -/
theorem looking : Keeps I (MonadState.get : Parser Row) fun _ => True := get.anyhow

theorem modifying {g : Row → Row} (hg : ∀ row, I row → I (g row)) :
    Keeps I (modify g : Parser Unit) fun _ => True := by
  intro row a row' hi hr
  cases hr
  exact ⟨trivial, hg row hi⟩

theorem lifting {e : Except ParseFault β} : Keeps I (liftM e : Parser β) fun _ => True := by
  intro row a row' hi hr
  cases e with
  | error fault => cases hr
  | ok b =>
    cases hr
    exact ⟨trivial, hi⟩

theorem orElse (hp : Keeps I p P) (hq : Keeps I q P) : Keeps I (orElse p q) P := by
  intro row a row' hi h
  have h : Parser.orElse p q row = .ok (a, row') := h
  unfold Parser.orElse at h
  cases hr : p row with
  | ok b =>
    rw [hr] at h
    cases h
    exact hp row a row' hi hr
  | error e =>
    rw [hr] at h
    exact hq row a row' hi h

end Keeps

section Common

variable {I : Row → Prop} {P : α → Prop} {p : Parser α}

theorem keeps_sees {test : List Tree → Bool} : Keeps I (sees test) fun _ => True :=
  .andThen .looking fun _ => .done

theorem keeps_failHere {cause : Bool → ParseFault.Cause} :
    Keeps I (failHere cause : Parser α) P := by
  refine .andThen .looking fun row => ?_
  split <;> exact .throw

theorem keeps_taking (h : Keeps I p P) : Keeps I (taking p) fun r => P r.1 :=
  .andThen .looking fun _ => .bind h fun _ ha => .andThen .looking fun _ => .pure ha

theorem keeps_finish : Keeps I finish fun _ => True :=
  .andThen keeps_sees fun _ => .ite .done keeps_failHere

theorem Keeps.finished (h : Keeps I p P) : Keeps I (p <* finish) P :=
  .bind h fun _ ha => .andThen keeps_finish fun _ => .pure ha

theorem Keeps.of_runOn (h : Keeps I p P) {row : Row} {a : α} (hi : I row)
    (hr : p.runOn row = .ok a) : P a := by
  unfold runOn at hr
  cases hq : (p <* finish).run row with
  | error e =>
    rw [hq] at hr
    cases hr
  | ok r =>
    rw [hq] at hr
    cases hr
    exact (h.finished _ _ _ hi hq).1

/-- The content of a group must be a row with the property, and how the group is written may not
matter to it. -/
theorem keeps_inGroup {d : Delimiter} (hg : Keeps I (groupRow d) I)
    (hi : ∀ content row, I row → I (row.refill content)) (h : Keeps I p P) :
    Keeps I (inGroup d p) P := by
  refine .bind hg fun inner hin => ?_
  intro row a row' hrow hr
  rw [StateT.run_bind] at hr
  cases hq : (p <* finish).run inner with
  | error e =>
    rw [hq] at hr
    cases hr
  | ok r =>
    obtain ⟨b, inner'⟩ := r
    rw [hq] at hr
    cases hr
    exact ⟨(h.finished inner _ inner' hin hq).1, hi _ _ hrow⟩

theorem keeps_manyUpTo {stop : List Tree → Bool} (h : Keeps I p P) (n : Nat) :
    Keeps I (manyUpTo stop p n) fun as => ∀ a ∈ as, P a := by
  induction n with
  | zero => exact .pure (by simp)
  | succ n ih =>
    refine .andThen keeps_sees fun _ => .ite (.pure (by simp)) ?_
    refine .bind h fun a ha => .bind ih fun as has => .pure ?_
    simpa using ⟨ha, has⟩

end Common

end HandleBridge.Source.Parser
