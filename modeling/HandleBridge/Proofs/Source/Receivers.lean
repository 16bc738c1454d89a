import HandleBridge.Source.ImplBlock
import HandleBridge.Proofs.Source.Keeps

/-
  A function that was read has its receiver in front.

  `Yields p P` says that whatever `p` answers satisfies `P`, from any row. With nothing to keep of
  the row it goes through a sequence of parsers with the last one, so of the long parsers for
  functions and blocks only the part that builds the answer has to be looked at.

  Proved:
  * `yields_params`: the check on receivers keeps a list of parameters in order.
  * `receiverFirst_of_ofTrees`: so do all functions of a block that was read.
-/

namespace HandleBridge.Source

namespace Param

def isReceiver : Param → Bool
  | .receiver .. => true
  | _ => false

@[simp] theorem isReceiver_receiver {kind : Receiver} {self span : Span} :
    (receiver kind self span).isReceiver = true := rfl

@[simp] theorem isReceiver_named {name : String} {type : TypeExpr} :
    (named name type).isReceiver = false := rfl

@[simp] theorem isReceiver_pattern {span : Span} : (pattern span).isReceiver = false := rfl

end Param

/-- Only the first parameter may be a receiver. -/
def ReceiverFirst (ps : List Param) : Prop := ∀ p ∈ ps.tail, p.isReceiver = false

theorem ReceiverFirst.append {ps : List Param} {p : Param} (h : ReceiverFirst ps)
    (hp : p.isReceiver = false) : ReceiverFirst (ps ++ [p]) := by
  cases ps with
  | nil => exact fun q hq => nomatch hq
  | cons q ps =>
    intro r hr
    rcases List.mem_append.1 hr with hr | hr
    · exact h r hr
    · rw [List.mem_singleton.1 hr]
      exact hp

/-- A receiver in front of the other parameters, or no receiver at all. -/
theorem receiverFirst_cases {ps : List Param} (h : ReceiverFirst ps) :
    (∃ kind self span, ps = .receiver kind self span :: ps.filter fun p => !p.isReceiver) ∨
      ps = ps.filter (fun p => !p.isReceiver) ∧
        ∀ kind self span, .receiver kind self span ∉ ps := by
  cases ps with
  | nil => exact .inr ⟨rfl, fun _ _ _ hk => nomatch hk⟩
  | cons p ps =>
    have ht : ps.filter (fun p => !p.isReceiver) = ps := by
      rw [List.filter_eq_self]
      intro q hq
      rw [h q hq]
      rfl
    have hn : ∀ kind self span, .receiver kind self span ∉ ps := by
      intro kind self span hk
      cases h _ hk
    cases p with
    | receiver kind self span => exact .inl ⟨kind, self, span, by simp [ht]⟩
    | named name type => exact .inr ⟨by simp [ht], by simpa using hn⟩
    | pattern span => exact .inr ⟨by simp [ht], by simpa using hn⟩

/-- If the item is a function, its receiver comes first. -/
def Item.ReceiverFirst : Item → Prop
  | .method m => Source.ReceiverFirst m.signature.params
  | .other => True

namespace Parser

variable {α β : Type}

/-- Whatever the parser answers has a property. -/
abbrev Yields (p : Parser α) (P : α → Prop) : Prop := Keeps (fun _ => True) p P

namespace Keeps

variable {P : α → Prop} {Q : β → Prop} {p : Parser α} {f : α → Parser β}

theorem any : Yields p fun _ => True := fun _ _ _ _ _ => ⟨trivial, trivial⟩

/-- A parser whose answer does not matter for the property. -/
theorem after (hf : ∀ a, Yields (f a) Q) : Yields (p >>= f) Q := .andThen any hf

theorem afterWhen {c : Prop} [Decidable c] {q : Parser β} (hp : Yields p P) :
    Yields (if c then q >>= fun _ => p else p) P := .whenever any hp

theorem afterUnless {c : Prop} [Decidable c] {q : Parser β} (hp : Yields p P) :
    Yields (if c then p else q >>= fun _ => p) P := .otherwise any hp

theorem afterEither {c : Prop} [Decidable c] {q q' : Parser β} {f : β → Parser α}
    (hf : ∀ b, Yields (f b) P) : Yields (if c then q >>= f else q' >>= f) P :=
  .either any any fun b _ => hf b

theorem inGroup {d : Delimiter} (hp : Yields p P) : Yields (inGroup d p) P :=
  keeps_inGroup (fun _ _ _ _ _ => ⟨trivial, trivial⟩) (fun _ _ _ => trivial) hp

end Keeps

/-! ## Functions -/

theorem yields_checkReceiver {before : List Param} {p : Param} (hb : ReceiverFirst before) :
    Yields (checkReceiver before p) fun _ => ReceiverFirst (before ++ [p]) := by
  cases p with
  | receiver kind self span =>
    cases before with
    | nil => exact .pure fun q hq => nomatch hq
    | cons q before => cases q <;> exact .throw
  | named name type => exact .pure (hb.append rfl)
  | pattern span => exact .pure (hb.append rfl)

theorem yields_params (n : Nat) {before : List Param} (hb : ReceiverFirst before) :
    Yields (params before n) ReceiverFirst := by
  induction n generalizing before with
  | zero => exact .pure hb
  | succ n ih =>
    refine .after fun ended => .ite (.pure hb) (.after fun given => ?_)
    cases given with
    | none => exact .after fun _ => .afterUnless (.pure hb)
    | some p =>
      exact .bind (yields_checkReceiver hb) fun _ hp => .after fun _ => .afterUnless (ih hp)

/-- In a signature that was read the receiver comes first. -/
theorem yields_signature : Yields signature fun s => ReceiverFirst s.params := by
  refine .bind (keeps_taking (P := fun s => ReceiverFirst s.params) ?_) fun r hr =>
    .after fun _ => .pure hr
  refine .after fun _ => .after fun _ => .after fun _ => .after fun _ => .after fun _ =>
    .after fun _ => .after fun _ => ?_
  refine .bind (.inGroup (.after fun _ => yields_params _ ?_)) fun ps hps =>
    .after fun _ => .pure hps
  exact fun p hp => nomatch hp

theorem yields_method {attributes : List Attribute} {visibility : Visibility} :
    Yields (method attributes visibility) Item.ReceiverFirst :=
  .bind yields_signature fun _ hs => .after fun _ =>
    .ite (.pure trivial) (.after fun _ => .after fun _ => .pure hs)

theorem yields_item : Yields item Item.ReceiverFirst := by
  refine .after fun _ => .after fun _ => .after fun isDefault => .afterWhen (.after fun _ => ?_)
  refine .ite yields_method (.after fun _ => .ite (.after fun _ => .pure trivial) ?_)
  exact .after fun _ => .ite (.after fun _ => .pure trivial) keeps_failHere

theorem yields_implBlock : Yields implBlock fun b => ∀ item ∈ b.items, item.ReceiverFirst := by
  refine .after fun _ => .after fun _ => .after fun _ => .after fun _ => .after fun ahead => ?_
  refine .afterEither fun generics => .after fun header => .after fun _ => ?_
  exact .bind (.inGroup (.after fun _ => .after fun _ => keeps_manyUpTo yields_item _))
    fun _ hi => .pure hi

end Parser

/-- In all functions of a block that was read the receiver comes first. -/
theorem receiverFirst_of_ofTrees {trees : List Tree} {b : ImplBlock}
    (h : ImplBlock.ofTrees trees = .ok b) {m : Method} (hm : .method m ∈ b.items) :
    ReceiverFirst m.signature.params :=
  Parser.yields_implBlock.of_runOn trivial h _ hm

end HandleBridge.Source
