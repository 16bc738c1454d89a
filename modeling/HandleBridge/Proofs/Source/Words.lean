import HandleBridge.Source.ImplBlock
import HandleBridge.Proofs.Source.Keeps

/-
  The names in a block that was read are words of its text.

  A parser takes whole trees off a row. So if all words of the row pass the test `ok`, those that
  are left do (`Reads ok`), and a name in the answer does because it was one of the words. Most
  answers hold no name (`Consumes ok`); of the others only the paths of types, the headers of
  functions and those of blocks matter.

  Proved:
  * `reads_name`, `reads_anyWord`: a name that is answered passes the test.
  * `reads_level`: the names of the paths in types do, at every depth.
  * `namedBy_of_ofTrees`: the names of the type, the trait and the functions of a block do.
-/

namespace HandleBridge.Source

/-- All words of a row of trees, at any depth, pass a test. -/
def AllWords (ok : String → Bool) (ts : List Tree) : Prop :=
  Tree.anyWordOf (fun w => !ok w) ts = false

section AllWords

variable {ok : String → Bool} {ts : List Tree}

theorem allWords_nil : AllWords ok [] := rfl

theorem allWords_cons {t : Tree} :
    AllWords ok (t :: ts) ↔ t.anyWord (fun w => !ok w) = false ∧ AllWords ok ts := by
  simp [AllWords, Tree.anyWordOf]

theorem allWords_word {w : String} {span : Span} :
    AllWords ok (.word w span :: ts) ↔ ok w = true ∧ AllWords ok ts := by
  simp [allWords_cons, Tree.anyWord]

theorem allWords_group {d : Delimiter} {content : List Tree} {span : Span} :
    AllWords ok (.group d content span :: ts) ↔ AllWords ok content ∧ AllWords ok ts := by
  rw [allWords_cons, Tree.anyWord]
  rfl

theorem allWords_append {us : List Tree} :
    AllWords ok (ts ++ us) ↔ AllWords ok ts ∧ AllWords ok us := by
  simp [AllWords, Tree.anyWordOf_eq_any]

theorem AllWords.reverse (h : AllWords ok ts) : AllWords ok ts.reverse := by
  simpa [AllWords, Tree.anyWordOf_eq_any] using h

theorem AllWords.drop (h : AllWords ok ts) (n : Nat) : AllWords ok (ts.drop n) := by
  rw [← List.take_append_drop n ts, allWords_append] at h
  exact h.2

end AllWords

theorem Row.rest_refill (content : List Tree) (row : Row) :
    (row.refill content).rest = row.rest := by
  unfold Row.refill
  split <;> rfl

namespace Parser

variable {α β : Type}

/-- The words that the parser leaves pass a test that those of the whole row pass, and what it
answers has a property. -/
abbrev Reads (ok : String → Bool) (q : Parser α) (Q : α → Prop) : Prop :=
  Keeps (fun row => AllWords ok row.rest) q Q

/-- A parser of which the answer does not matter. -/
abbrev Consumes (ok : String → Bool) (q : Parser α) : Prop := Reads ok q fun _ => True

/-! ## Single trees -/

section Single

variable {ok : String → Bool} {Q : α → Prop} {q : Parser α}

theorem reads_skip (n : Nat) : Consumes ok (skip n) := .modifying fun _ hw => hw.drop n

theorem consumes_taking (h : Consumes ok q) : Consumes ok (taking q) := (keeps_taking h).anyhow

theorem reads_writing {q : Parser (α × List Tree)} (h : Reads ok q fun r => Q r.1) :
    Reads ok (writing q) Q :=
  .andThen .looking fun _ => .bind h fun _ ha =>
    .andThen (.modifying fun _ hw => hw) fun _ => .pure ha

theorem reads_word {text : String} : Consumes ok (word text) :=
  .andThen keeps_sees fun _ => .ite (reads_skip 1) keeps_failHere

theorem reads_word? {text : String} : Consumes ok (word? text) :=
  .andThen keeps_sees fun _ => .ite (.andThen (reads_skip 1) fun _ => .done) .done

theorem reads_wordSpan? {text : String} : Consumes ok (wordSpan? text) :=
  .andThen (consumes_taking reads_word?) fun _ => .done

theorem reads_punct {text : String} : Consumes ok (punct text) :=
  .andThen keeps_sees fun _ => .ite (reads_skip _) keeps_failHere

theorem reads_punct? {text : String} : Consumes ok (punct? text) :=
  .andThen keeps_sees fun _ => .ite (.andThen (reads_skip _) fun _ => .done) .done

/-- A word that is answered passes the test. -/
theorem reads_anyWord : Reads ok anyWord fun w => ok w = true := by
  refine .bind .get fun row hw => ?_
  split
  · rename_i w span rest he
    rw [he] at hw
    exact .andThen (reads_skip 1) fun _ => .pure (allWords_word.1 hw).1
  · exact keeps_failHere

/-- A name that is answered passes the test. -/
theorem reads_name : Reads ok name fun w => ok w = true := by
  refine .bind .get fun row hw => ?_
  split
  · rename_i w span rest he
    rw [he] at hw
    exact .ite keeps_failHere (.andThen (reads_skip 1) fun _ => .pure (allWords_word.1 hw).1)
  · exact keeps_failHere

theorem reads_anyGroup : Consumes ok anyGroup := by
  refine .andThen .looking fun row => ?_
  split
  · exact .andThen (reads_skip 1) fun _ => .done
  · exact keeps_failHere

theorem reads_lifetime : Consumes ok lifetime :=
  .andThen keeps_sees fun _ => .ite (reads_skip 2) keeps_failHere

theorem reads_lifetime? : Consumes ok lifetime? :=
  .andThen keeps_sees fun _ => .ite (.andThen (reads_skip 2) fun _ => .done) .done

theorem reads_literal : Consumes ok literal := by
  refine .andThen .looking fun row => ?_
  split
  · exact reads_skip 1
  · exact keeps_failHere

theorem reads_everything : Consumes ok everything :=
  .andThen .looking fun _ => reads_skip _

theorem reads_skipUpTo {stop : List Tree → Bool} : Consumes ok (skipUpTo stop) :=
  .andThen .looking fun _ => reads_skip _

/-- The words in a group are words of the row. -/
theorem reads_groupRow {d : Delimiter} :
    Reads ok (groupRow d) fun row => AllWords ok row.rest := by
  refine .bind .get fun row hw => ?_
  split
  · rename_i d' content span rest he
    rw [he] at hw
    refine .ite (.andThen (reads_skip 1) fun _ => .pure (allWords_group.1 hw).1) keeps_failHere
  · exact keeps_failHere

theorem reads_inGroup {d : Delimiter} (h : Reads ok q Q) : Reads ok (inGroup d q) Q :=
  keeps_inGroup reads_groupRow (fun content row hw => by rwa [Row.rest_refill]) h

end Single

/-! ## Lists -/

section Lists

variable {ok : String → Bool} {Q : α → Prop} {item : Parser α} {separator : Parser Unit}
  {stop : List Tree → Bool}

theorem reads_listUpTo (hs : Consumes ok separator) (hi : Consumes ok item) (n : Nat) :
    Consumes ok (listUpTo separator stop item n) := by
  induction n with
  | zero => exact .done
  | succ n ih =>
    refine .andThen keeps_sees fun _ => .ite .done (.andThen hi fun _ => ?_)
    exact .andThen keeps_sees fun _ => .ite .done
      (.andThen hs fun _ => .andThen ih fun _ => .done)

theorem reads_commaList (hi : Consumes ok item) : Consumes ok (commaList stop item) :=
  .andThen .looking fun _ => reads_listUpTo reads_punct hi _

theorem reads_listWhile {separator : String} (hi : Consumes ok item) (n : Nat) :
    Consumes ok (listWhile separator stop item n) := by
  induction n with
  | zero => exact .done
  | succ n ih =>
    refine .andThen keeps_sees fun _ => .ite .done (.andThen hi fun _ => ?_)
    exact .andThen reads_punct? fun _ => .ite (.andThen ih fun _ => .done) .done

theorem reads_plusList (hi : Consumes ok item) : Consumes ok (plusList stop item) :=
  .andThen .looking fun _ => reads_listWhile hi _

end Lists

/-! ## Attributes -/

section Attributes

variable {ok : String → Bool}

theorem reads_attribute_many {more : List Tree → Bool} {one : Parser Attribute}
    (h : Consumes ok one) (n : Nat) : Consumes ok (Attribute.many more one n) := by
  induction n with
  | zero => exact .done
  | succ n ih =>
    refine .andThen keeps_sees fun _ => .ite ?_ .done
    exact .andThen h fun _ => .andThen ih fun _ => .done

theorem reads_outers : Consumes ok Attribute.outers := by
  have one : Consumes ok Attribute.outer :=
    .andThen (consumes_taking (.andThen reads_punct fun _ => reads_groupRow.anyhow))
      fun _ => .done
  exact .andThen .looking fun _ => reads_attribute_many one _

theorem reads_inners : Consumes ok Attribute.inners := by
  have one : Consumes ok Attribute.inner :=
    .andThen (consumes_taking (.andThen reads_punct fun _ => .andThen reads_punct fun _ =>
      reads_groupRow.anyhow)) fun _ => .done
  exact .andThen .looking fun _ => reads_attribute_many one _

end Attributes

/-! ## Parts of types -/

section Parts

variable {ok : String → Bool}

theorem reads_unwritten {q : Parser α} (h : Consumes ok q) : Consumes ok (unwritten q) :=
  reads_writing (.andThen h fun _ => .done)

theorem reads_bounds? {bound : Parser α} (h : Consumes ok bound) : Consumes ok (bounds? bound) := by
  refine reads_writing (.andThen (consumes_taking ?_) fun _ => .done)
  exact .andThen reads_punct? fun _ => .ite (reads_plusList h) .done

theorem reads_lifetimeParameter : Consumes ok lifetimeParameter :=
  .andThen reads_lifetime fun _ => reads_bounds? reads_lifetime

theorem reads_lifetimesFirst {isLifetime : List Tree → Bool} {entry : Parser Unit}
    (h : Consumes ok entry) : Consumes ok (lifetimesFirst isLifetime entry) := by
  have one : Consumes ok (taking do
      let marked ← sees isLifetime
      entry
      unless ← sees (Ahead.punct ">") do punct ","
      return marked) := by
    refine consumes_taking ?_
    exact .andThen keeps_sees fun _ => .andThen h fun _ => .andThen keeps_sees fun _ =>
      .otherwise reads_punct .done
  refine .andThen reads_punct fun _ => .andThen (reads_writing ?_) fun _ =>
    .andThen reads_punct fun _ => .done
  exact .andThen .looking fun _ => .andThen (keeps_manyUpTo one _).anyhow fun _ => .done

theorem reads_constant : Consumes ok constant :=
  .andThen keeps_sees fun _ => .ite (reads_skip 1) (.andThen reads_punct? fun _ => reads_literal)

theorem reads_constantArgument : Consumes ok constantArgument :=
  .andThen keeps_sees fun _ => .ite reads_constant <|
    .andThen keeps_sees fun _ => .ite (reads_skip 1) (.andThen reads_name.anyhow fun _ => .done)

theorem reads_convention? : Consumes ok convention? := by
  refine .andThen reads_word? fun _ => .ite (.andThen .looking fun row => ?_) .done
  split
  · exact reads_skip 1
  · exact .done

theorem reads_builtinType : Consumes ok builtinType :=
  .andThen reads_word fun _ => .andThen reads_punct fun _ => .andThen reads_name.anyhow fun _ =>
    .andThen reads_groupRow.anyhow fun _ => .done

end Parts

end Parser

/-- If a type is a path, the name at its end passes a test. -/
def TypeExpr.Shape.NamedBy (ok : String → Bool) : TypeExpr.Shape → Prop
  | .path _ _ last => ok last.name = true
  | _ => True

theorem TypeExpr.name_of_namedBy {ok : String → Bool} {t : TypeExpr} {s : PathSegment}
    (h : t.shape.NamedBy ok) (hs : t.lastSegment? = some s) : ok s.name = true := by
  unfold lastSegment? at hs
  split at hs
  · rename_i he
    cases hs
    rw [he] at h
    exact h
  · cases hs

namespace Parser

/-- What the parsers of a level read. -/
structure LevelReads (ok : String → Bool) (inner : Level) : Prop where
  type : ∀ plus, Reads ok (inner.type plus) fun t => t.shape.NamedBy ok
  bound : Consumes ok inner.bound

namespace LevelReads

variable {ok : String → Bool} {inner : Level} (hi : LevelReads ok inner)
include hi

theorem consumes_type (plus : Bool) : Consumes ok (inner.type plus) := (hi.type plus).anyhow

/-! ### Paths -/

theorem pathArgument : Consumes ok inner.pathArgument := by
  refine .andThen keeps_sees fun _ => .ite reads_lifetime ?_
  refine .andThen keeps_sees fun _ => .ite reads_constantArgument ?_
  refine .andThen (hi.consumes_type true) fun _ =>
    .ite (.andThen reads_punct? fun _ => .ite ?_ ?_) .done
  · exact .andThen keeps_sees fun _ =>
      .ite reads_constantArgument (.andThen (hi.consumes_type true) fun _ => .done)
  · exact .andThen reads_punct? fun _ =>
      .ite (.andThen (reads_plusList hi.bound) fun _ => .done) .done

theorem pathArguments : Consumes ok inner.pathArguments := reads_lifetimesFirst hi.pathArgument

theorem pathSegment (direct : Bool) :
    Reads ok (inner.pathSegment direct) fun s => ok s.name = true := by
  refine .andThen keeps_sees fun _ => .ite (.bind reads_anyWord fun _ hw => .pure hw) ?_
  refine .andThen keeps_sees fun _ => .either reads_anyWord reads_name fun text ht => ?_
  have arguments : Reads ok (do return ⟨text, some (← inner.pathArguments)⟩ : Parser PathSegment)
      fun s => ok s.name = true := .andThen hi.pathArguments fun _ => .pure ht
  refine .andThen keeps_sees fun _ => .ite arguments ?_
  exact .andThen keeps_sees fun _ => .ite (.andThen reads_punct fun _ => arguments) (.pure ht)

theorem furtherSegments (direct : Bool) (n : Nat) :
    Reads ok (inner.furtherSegments direct n) fun ss => ∀ s ∈ ss, ok s.name = true := by
  induction n with
  | zero => exact .pure (by simp)
  | succ n ih =>
    refine .andThen keeps_sees fun _ => .ite (.andThen reads_punct fun _ => ?_) (.pure (by simp))
    refine .bind (hi.pathSegment direct) fun s hs => .bind ih fun ss hss => .pure ?_
    simpa using ⟨hs, hss⟩

theorem path (direct : Bool) : Reads ok (inner.path direct) fun r => ok r.2.2.name = true := by
  refine .andThen reads_punct? fun _ => .bind (hi.pathSegment direct) fun first hf => ?_
  refine .andThen .looking fun _ => .bind (hi.furtherSegments direct _) fun more hm => ?_
  refine .pure ?_
  show ok (more.getLastD first).name = true
  rw [List.getLastD_eq_getLast?]
  cases hl : more.getLast? with
  | none => exact hf
  | some last => exact hm last (List.mem_of_getLast? hl)

theorem qualifiedPath (direct : Bool) : Consumes ok (inner.qualifiedPath direct) := by
  refine .andThen reads_punct fun _ => .andThen (hi.consumes_type true) fun _ =>
    .andThen reads_word? fun _ => .whenever (hi.path true).anyhow ?_
  exact .andThen reads_punct fun _ => .andThen reads_punct fun _ =>
    .andThen (hi.pathSegment direct).anyhow fun _ => .andThen .looking fun _ =>
      .andThen (hi.furtherSegments direct _).anyhow fun _ => .done

/-! ### Parameters and bounds -/

theorem parameter : Consumes ok inner.parameter := by
  have default : Consumes ok (do if ← punct? "=" then let _ ← inner.type true : Parser Unit) :=
    .andThen reads_punct? fun _ => .ite (.andThen (hi.consumes_type true) fun _ => .done) .done
  have constant : Consumes ok (do if ← punct? "=" then constantArgument : Parser Unit) :=
    .andThen reads_punct? fun _ => .ite reads_constantArgument .done
  refine .andThen reads_outers fun _ => .andThen keeps_sees fun _ =>
    .ite reads_lifetimeParameter (.andThen keeps_sees fun _ => .ite ?_ ?_)
  · exact .andThen (reads_skip 1) fun _ => .andThen (reads_bounds? hi.bound) fun _ => default
  · refine .andThen reads_word? fun _ => .ite ?_ keeps_failHere
    exact .andThen reads_name.anyhow fun _ => .andThen reads_punct fun _ =>
      .andThen (hi.consumes_type true) fun _ => constant

theorem parameters : Consumes ok inner.parameters :=
  .andThen reads_punct fun _ => .andThen (reads_commaList hi.parameter) fun _ =>
    .andThen reads_punct fun _ => .done

theorem binder? : Consumes ok inner.binder? :=
  .andThen reads_word? fun _ => .ite (.andThen hi.parameters fun _ => .done) .done

theorem output? (plus : Bool) : Consumes ok (inner.output? plus) :=
  .andThen reads_punct? fun _ => .ite (.map (hi.consumes_type plus)) .done

/-! ### Bounds and types -/

/-- Whichever way a bound is marked, a binder and a path follow. -/
theorem traitBound : Consumes ok inner.traitBound := by
  refine .andThen hi.binder? fun _ => .andThen reads_punct? fun _ => ?_
  extract_lets named unmarked
  have hn : ∀ u, Consumes ok (named u) := by
    intro u
    refine .andThen (hi.path true).anyhow fun _ => .andThen keeps_sees fun _ => .ite ?_ .done
    exact .andThen (reads_unwritten reads_punct?) fun _ =>
      .andThen (reads_inGroup (reads_commaList (hi.consumes_type true))) fun _ =>
        .andThen (hi.output? false) fun _ => .done
  have hu : ∀ u, Consumes ok (unmarked u) := fun _ => .andThen reads_punct? fun _ =>
    .ite (.ite (hn ()) (.andThen hi.binder? fun _ => hn ())) (hn ())
  refine .ite (.andThen reads_word hu) (.andThen keeps_sees fun _ => ?_)
  exact .ite (.andThen (reads_skip 1) hu) (.andThen reads_word? fun _ => hu ())

theorem anyBound : Consumes ok inner.anyBound := by
  have captured : Consumes ok (lifetimesFirst Ahead.lifetime do
      if ← sees Ahead.lifetime then lifetime
      else
        let _ ← anyWord) :=
    reads_lifetimesFirst <| .andThen keeps_sees fun _ =>
      .ite reads_lifetime (.andThen reads_anyWord.anyhow fun _ => .done)
  refine .andThen keeps_sees fun _ => .ite (.andThen reads_lifetime fun _ => .done) ?_
  refine .andThen reads_word? fun _ => .ite (.andThen captured fun _ => .done) ?_
  refine .andThen keeps_sees fun _ => .ite ?_ ?_
  · exact .andThen (reads_inGroup hi.traitBound) fun _ => .done
  · exact .andThen hi.traitBound fun _ => .done

theorem bounds (plus : Bool) : Consumes ok (inner.bounds plus) := by
  refine .andThen hi.anyBound fun _ => .ite (.andThen reads_punct? fun _ => .ite ?_ .done) .done
  exact .andThen (reads_plusList hi.anyBound) fun _ => .done

theorem boundsType {lead : Parser Unit} (hl : Consumes ok lead) (plus : Bool)
    (otherwise : ParseFault.Cause) :
    Reads ok (inner.boundsType lead plus otherwise) (TypeExpr.Shape.NamedBy ok) :=
  .andThen (consumes_taking (.andThen hl fun _ => hi.bounds plus)) fun _ =>
    .ite (.pure trivial) .throw

theorem objectType (plus : Bool) :
    Reads ok (inner.objectType plus) (TypeExpr.Shape.NamedBy ok) :=
  hi.boundsType (.andThen reads_word? fun _ =>
    .ite (.andThen reads_punct? fun _ => .done) .done) plus _

theorem functionTypeParameter : Consumes ok inner.functionTypeParameter := by
  refine .andThen reads_outers fun _ => .andThen reads_punct? fun _ => .ite .done ?_
  refine .andThen keeps_sees fun _ => ?_
  extract_lets typed unnamed
  have ht : ∀ u, Consumes ok (typed u) := fun _ => .andThen reads_punct? fun _ =>
    .ite .done (.andThen (hi.consumes_type true) fun _ => .done)
  have hu : ∀ u, Consumes ok (unnamed u) := fun _ => .andThen keeps_sees fun _ =>
    .ite (.andThen (reads_skip 2) ht) (ht ())
  exact .ite (.andThen (reads_skip 1) hu) (hu ())

theorem functionType : Consumes ok inner.functionType := by
  refine .andThen reads_word? fun _ => .andThen reads_convention? fun _ =>
    .andThen reads_word fun _ => ?_
  exact .andThen (reads_inGroup (reads_commaList hi.functionTypeParameter)) fun _ =>
    .andThen (hi.output? false) fun _ => .done

theorem insideParentheses :
    Reads ok inner.insideParentheses fun s => ∀ shape ∈ s, shape.NamedBy ok := by
  refine .andThen keeps_sees fun _ => .ite (.pure (by simp)) ?_
  refine .andThen keeps_sees fun _ => .ite ?_ ?_
  · exact .andThen (hi.objectType true).anyhow fun _ => .pure (by simp [TypeExpr.Shape.NamedBy])
  refine .andThen keeps_sees fun _ => .ite ?_ ?_
  · exact .andThen hi.traitBound fun _ => .pure (by simp [TypeExpr.Shape.NamedBy])
  refine .bind (hi.type true) fun first hf => .andThen reads_punct? fun _ => .ite ?_ ?_
  · exact .andThen (reads_commaList (hi.consumes_type true)) fun _ => .pure (by simp)
  · exact .pure (by simpa using hf)

/-- A path in parentheses is no longer a path. -/
theorem parenthesizedType (plus : Bool) :
    Reads ok (inner.parenthesizedType plus) (TypeExpr.Shape.NamedBy ok) := by
  refine .andThen keeps_sees fun relaxed =>
    .andThen (reads_inGroup hi.insideParentheses).anyhow fun inside => ?_
  have further : Reads ok (do
      if (plus || relaxed) && (← sees (Ahead.punct "+")) then
        punct "+"
        let _ ← plusList (fun _ => false) inner.anyBound
        return .bounds false
      return if relaxed then .bounds true else .other : Parser TypeExpr.Shape)
      (TypeExpr.Shape.NamedBy ok) := by
    refine .andThen keeps_sees fun _ => .ite ?_ (.pure ?_)
    · exact .andThen reads_punct fun _ =>
        .andThen (reads_plusList hi.anyBound) fun _ => .pure trivial
    · split <;> trivial
  split
  · exact further
  · exact further
  · exact .pure trivial

theorem pathType (declared plus : Bool) :
    Reads ok (inner.pathType declared plus) (TypeExpr.Shape.NamedBy ok) := by
  refine .andThen keeps_sees fun _ =>
    .ite (.andThen (hi.qualifiedPath true) fun _ => .pure trivial) ?_
  refine .bind (hi.path true) fun ⟨absolute, front, last⟩ hl => ?_
  refine .andThen keeps_sees fun _ => .ite ?_ ?_
  · exact .andThen reads_punct fun _ => .andThen reads_anyGroup fun _ => .pure trivial
  have alone : Reads ok
      (Pure.pure (if declared then .bounds true else .path absolute front last) :
        Parser TypeExpr.Shape) (TypeExpr.Shape.NamedBy ok) := by
    refine .pure ?_
    split
    · trivial
    · exact hl
  refine .ite (.andThen reads_punct? fun _ => .ite ?_ alone) alone
  exact .andThen (reads_plusList hi.anyBound) fun _ => .pure trivial

theorem arrayType : Consumes ok inner.arrayType :=
  reads_inGroup <| .andThen (hi.consumes_type true) fun _ => .andThen reads_punct? fun _ =>
    .ite reads_everything .done

/-- Only what begins with a path may end up as a path. -/
theorem typeShape (plus : Bool) :
    Reads ok (inner.typeShape plus) (TypeExpr.Shape.NamedBy ok) := by
  refine .andThen hi.binder? fun declared => ?_
  extract_lets pointed undeclared
  have hp : ∀ u, Reads ok (pointed u) (TypeExpr.Shape.NamedBy ok) := fun _ =>
    .andThen (hi.consumes_type false) fun _ => .pure trivial
  have hu : ∀ u, Reads ok (undeclared u) (TypeExpr.Shape.NamedBy ok) := by
    intro u
    refine .andThen keeps_sees fun _ => .ite (hi.parenthesizedType plus) ?_
    refine .andThen keeps_sees fun _ => .ite (.andThen hi.functionType fun _ => .pure trivial) ?_
    refine .andThen keeps_sees fun _ => .ite (.andThen reads_builtinType fun _ => .pure trivial) ?_
    refine .andThen keeps_sees fun _ => .ite (hi.pathType declared plus) ?_
    refine .andThen keeps_sees fun _ => .ite (hi.objectType plus) ?_
    refine .andThen keeps_sees fun _ => .ite (.andThen hi.arrayType fun _ => .pure trivial) ?_
    refine .andThen reads_punct? fun _ => .ite (.andThen keeps_sees fun _ =>
      .ite (.andThen (reads_skip 1) hp) (.andThen keeps_failHere hp)) ?_
    refine .andThen reads_punct? fun _ => .ite (.andThen reads_lifetime? fun _ =>
      .andThen reads_word? fun _ => hp ()) ?_
    refine .andThen reads_punct? fun _ => .ite (.pure trivial) ?_
    refine .andThen keeps_sees fun _ => .ite (hi.boundsType reads_word plus _) ?_
    refine .andThen reads_word? fun _ => .ite (.pure trivial) ?_
    exact .andThen keeps_sees fun _ => .ite (hi.objectType true) keeps_failHere
  exact .ite (.andThen keeps_sees fun _ => .ite (hu ()) (.andThen keeps_failHere hu)) (hu ())

theorem anyType (plus : Bool) : Reads ok (inner.anyType plus) fun t => t.shape.NamedBy ok :=
  .bind (keeps_taking (hi.typeShape plus)) fun _ h => .pure h

end LevelReads

section Whole

variable {ok : String → Bool}

/-- Every level reads what the levels below it read. -/
theorem reads_level (n : Nat) : LevelReads ok (level n) := by
  induction n with
  | zero =>
    have fails {α : Type} {Q : α → Prop} : Reads ok (failHere fun _ => .unexpectedToken) Q :=
      keeps_failHere
    exact ⟨fun _ => fails, fails⟩
  | succ n ih => exact ⟨ih.anyType, ih.anyBound⟩

theorem reads_deepEnough : Reads ok deepEnough (LevelReads ok) :=
  .andThen .looking fun _ => .pure (reads_level _)

theorem reads_type : Reads ok type fun t => t.shape.NamedBy ok :=
  .bind reads_deepEnough fun _ h => h.type true

theorem reads_output? : Consumes ok output? := .bind reads_deepEnough fun _ h => h.output? true

theorem reads_genericParameters : Consumes ok genericParameters :=
  .bind reads_deepEnough fun _ h => h.parameters

theorem reads_condition : Consumes ok condition := by
  refine .bind reads_deepEnough fun _ h => .andThen keeps_sees fun _ => .ite ?_ ?_
  · exact .andThen reads_lifetime fun _ => .andThen reads_punct fun _ =>
      .andThen (reads_plusList reads_lifetime) fun _ => .done
  · exact .andThen h.binder? fun _ => .andThen reads_type.anyhow fun _ =>
      .andThen reads_punct fun _ => .andThen (reads_plusList h.bound) fun _ => .done

theorem reads_conditions? : Consumes ok conditions? :=
  .andThen reads_word? fun _ => .ite (.andThen .looking fun _ =>
    .andThen (reads_listWhile reads_condition _) fun _ => .done) .done

/-! ### Patterns -/

theorem reads_valuePath : Consumes ok valuePath := by
  refine .bind reads_deepEnough fun _ h => .andThen keeps_sees fun _ => .ite ?_ ?_
  · exact .andThen (h.qualifiedPath false) fun _ => .done
  · exact .andThen (h.path false).anyhow fun _ => .done

theorem reads_rangeBound : Consumes ok rangeBound := by
  refine .andThen keeps_sees fun _ => .ite reads_constant (.andThen reads_word? fun _ => .ite ?_ ?_)
  · exact .andThen reads_groupRow.anyhow fun _ => .done
  · exact .andThen reads_valuePath fun _ => .done

theorem reads_rangeEnd : Consumes ok rangeEnd := by
  refine .andThen reads_punct? fun _ => .andThen reads_punct? fun _ => ?_
  extract_lets bounded
  have hb : ∀ u, Consumes ok (bounded u) := fun _ =>
    .andThen keeps_sees fun _ => .ite .done reads_rangeBound
  exact .ite (hb ()) (.andThen reads_punct hb)

theorem reads_pathPattern : Consumes ok pathPattern := by
  refine .andThen reads_valuePath fun _ => .andThen keeps_sees fun _ => .ite ?_ ?_
  · exact .andThen reads_punct fun _ => .andThen reads_anyGroup fun _ => .done
  · exact .andThen keeps_sees fun _ =>
      .ite (reads_skip 1) (.andThen keeps_sees fun _ => .ite reads_rangeEnd .done)

theorem reads_patternWithin (n : Nat) : Consumes ok (patternWithin n) := by
  induction n with
  | zero => exact keeps_failHere
  | succ n ih =>
    refine .andThen keeps_sees fun _ => .ite (.andThen reads_pathPattern fun _ => .done) ?_
    refine .andThen reads_word? fun _ => .ite .done ?_
    refine .andThen reads_word? fun _ => .ite (.andThen ih fun _ => .done) ?_
    refine .andThen keeps_sees fun _ => .ite (.andThen reads_rangeBound fun _ =>
      .andThen keeps_sees fun _ => .whenever reads_rangeEnd .done) ?_
    refine .andThen reads_punct? fun _ => .ite (.andThen reads_word? fun _ =>
      .andThen ih fun _ => .done) ?_
    refine .andThen keeps_sees fun _ => .ite (.andThen (reads_skip 1) fun _ => .done) ?_
    refine .andThen keeps_sees fun _ => .ite (.andThen reads_rangeEnd fun _ => .done) ?_
    refine .andThen reads_word? fun _ => .andThen reads_word? fun _ =>
      .andThen keeps_sees fun _ => ?_
    extract_lets named
    have hn : ∀ w, Consumes ok (named w) := fun _ =>
      .andThen reads_punct? fun _ => .whenever ih .done
    exact .ite (.andThen reads_anyWord.anyhow hn) (.andThen reads_name.anyhow hn)

theorem reads_pattern : Consumes ok pattern :=
  .andThen .looking fun _ => reads_patternWithin _

/-! ### Functions -/

theorem reads_receiver : Consumes ok receiver := by
  refine .andThen reads_punct? fun borrowed => ?_
  extract_lets marked
  have hm : ∀ u, Consumes ok (marked u) := by
    refine fun _ => .andThen reads_word? fun _ =>
      .andThen (consumes_taking reads_word) fun ⟨_, self⟩ => ?_
    dsimp -zeta only
    extract_lets taken
    have ht : ∀ typed, Consumes ok (taken typed) := fun _ => .whenever reads_type.anyhow <|
      .andThen keeps_sees fun _ => .whenever keeps_failHere .done
    exact .ite (.andThen .done ht) (.andThen reads_punct? ht)
  exact .ite (.andThen reads_lifetime? fun _ => hm ()) (hm ())

theorem reads_typedParam : Consumes ok typedParam := by
  refine .andThen .looking fun _ => .ite (.andThen reads_type.anyhow fun _ => .done) ?_
  exact .andThen (consumes_taking reads_pattern) fun _ => .andThen reads_punct fun _ =>
    .andThen reads_punct? fun _ => .ite .done (.andThen reads_type.anyhow fun _ => .done)

theorem reads_param : Consumes ok param := by
  refine .andThen (consumes_taking reads_outers) fun _ =>
    .andThen reads_punct? fun _ => .ite .done ?_
  refine .andThen (.orElse (.map (consumes_taking reads_receiver)) .done) fun taken => ?_
  split
  · exact .done
  · exact reads_typedParam

theorem reads_checkReceiver {before : List Param} {p : Param} :
    Consumes ok (checkReceiver before p) := by
  unfold checkReceiver
  split
  · split
    · exact .done
    · exact .throw
    · exact .throw
  · exact .done

theorem reads_params (before : List Param) (n : Nat) : Consumes ok (params before n) := by
  induction n generalizing before with
  | zero => exact .done
  | succ n ih =>
    refine .andThen keeps_sees fun _ => .ite .done (.andThen reads_param fun p => ?_)
    split
    · exact .andThen keeps_sees fun _ => .otherwise reads_punct .done
    · exact .andThen reads_checkReceiver fun _ => .andThen keeps_sees fun _ =>
        .otherwise reads_punct (ih _)

theorem reads_generics? : Consumes ok generics? :=
  .andThen keeps_sees fun _ =>
    .ite (.andThen (consumes_taking reads_genericParameters) fun _ => .done) .done

theorem reads_signature : Reads ok signature fun s => ok s.name = true := by
  refine .bind (keeps_taking (P := fun s : Signature => ok s.name = true) ?_) fun s hs =>
    .andThen (consumes_taking reads_conditions?) fun _ => .pure hs
  refine .andThen reads_word? fun _ => .andThen reads_wordSpan? fun _ =>
    .andThen reads_wordSpan? fun _ => .andThen reads_convention? fun _ =>
    .andThen reads_word fun _ => .bind reads_name fun w hw => ?_
  have all : Consumes ok (do params [] ((← MonadState.get).rest.length + 1)) :=
    .andThen .looking fun _ => reads_params _ _
  exact .andThen reads_generics? fun _ => .andThen (reads_inGroup all) fun _ =>
    .andThen (consumes_taking reads_output?) fun _ => .pure hw

/-! ### Items -/

theorem reads_visibility : Consumes ok visibility := by
  refine .andThen reads_word? fun _ => .ite (.andThen .looking fun row => ?_) .done
  split
  · exact .ite (.andThen (reads_skip 1) fun _ => .done) .done
  · exact .andThen (reads_skip 1) fun _ => .done
  · exact .done

theorem reads_throughSemicolon : Consumes ok throughSemicolon :=
  .andThen reads_skipUpTo fun _ => reads_punct

theorem reads_templateCall : Consumes ok templateCall := by
  have segment : Consumes ok (do if ← sees pathKeywordAhead then anyWord else name) :=
    .andThen keeps_sees fun _ => .ite reads_anyWord.anyhow reads_name.anyhow
  exact .andThen reads_punct? fun _ => .andThen .looking fun _ =>
    .andThen (reads_listWhile segment _) fun _ => .andThen reads_punct fun _ =>
      .andThen reads_anyGroup fun _ => .ite .done reads_punct

end Whole

end Parser

/-- The name of a function passes a test, if an item is one. -/
def Item.NamedBy (ok : String → Bool) : Item → Prop
  | .method m => ok m.signature.name = true
  | .other => True

/-- The names of the type, of the trait and of the functions of a block pass a test. -/
structure ImplBlock.NamedBy (ok : String → Bool) (b : ImplBlock) : Prop where
  trait : ∀ t ∈ b.trait?, ok t.name = true
  self : b.self.shape.NamedBy ok
  items : ∀ i ∈ b.items, i.NamedBy ok

namespace Parser

section Blocks

variable {ok : String → Bool}

theorem reads_method (attributes : List Attribute) (v : Visibility) :
    Reads ok (method attributes v) (Item.NamedBy ok) := by
  refine .bind reads_signature fun s hs => .andThen reads_punct? fun _ => .ite (.pure trivial) ?_
  exact .andThen reads_groupRow.anyhow fun _ => .andThen .lifting fun _ => .pure hs

theorem reads_item : Reads ok item (Item.NamedBy ok) := by
  refine .andThen reads_outers fun attributes => .andThen reads_visibility fun v =>
    .andThen keeps_sees fun _ => ?_
  extract_lets plain
  have hp : ∀ u, Reads ok (plain u) (Item.NamedBy ok) := by
    refine fun _ => .andThen keeps_sees fun _ => .ite (reads_method attributes v) ?_
    refine .andThen keeps_sees fun _ =>
      .ite (.andThen reads_throughSemicolon fun _ => .pure trivial) ?_
    exact .andThen keeps_sees fun _ =>
      .ite (.andThen reads_templateCall fun _ => .pure trivial) keeps_failHere
  exact .ite (.andThen (reads_skip 1) hp) (hp ())

theorem reads_header :
    Reads ok header fun r => (∀ t ∈ r.1, ok t.name = true) ∧ r.2.shape.NamedBy ok := by
  refine .bind (keeps_taking (P := fun r : Bool × TypeExpr => r.2.shape.NamedBy ok)
    (.andThen keeps_sees fun negated => ?_)) fun ⟨⟨negated, t⟩, trees⟩ ht =>
    .andThen reads_word? fun _ => .ite ?_ ?_
  · exact .whenever (reads_skip 1) (.bind reads_type fun _ h => .pure h)
  · split
    · rename_i last hl
      refine .bind reads_type fun self hs => .pure ⟨?_, hs⟩
      simpa using TypeExpr.name_of_namedBy ht hl
    · exact .throw
  · refine .pure ⟨by simp, ?_⟩
    cases negated
    · exact ht
    · trivial

theorem reads_implBlock : Reads ok implBlock (ImplBlock.NamedBy ok) := by
  refine .andThen reads_outers fun _ => .andThen reads_word? fun _ => .andThen reads_word? fun _ =>
    .andThen reads_word fun _ => .andThen keeps_sees fun _ => ?_
  extract_lets declared
  have hd : ∀ g, Reads ok (declared g) (ImplBlock.NamedBy ok) := by
    refine fun _ => .bind reads_header fun r hr => .andThen reads_conditions? fun _ => ?_
    refine .bind (reads_inGroup (.andThen reads_inners fun _ => .andThen .looking fun _ =>
      keeps_manyUpTo reads_item _)) fun items hi => .pure ⟨hr.1, hr.2, hi⟩
  exact .ite (.andThen reads_generics? hd) (.andThen .done hd)

end Blocks

end Parser

/-- The names in a block that was read pass every test that all words of the text pass. -/
theorem ImplBlock.namedBy_of_ofTrees {ok : String → Bool} {trees : List Tree} {b : ImplBlock}
    (hw : AllWords ok trees) (h : ImplBlock.ofTrees trees = .ok b) : b.NamedBy ok :=
  Parser.reads_implBlock.of_runOn hw h

end HandleBridge.Source
