import HandleBridge.Binding.Plan
import HandleBridge.Proofs.Text.LowerCase

/-
  The names that exports get are names.

  An export is called by the small forms of the type and the trait and by the function, with
  underscores between them. If type and trait have plain names, that is an identifier again, so
  `decideBlock` never has to refuse it. A function may have a raw name: its mark is left out.

  Proved:
  * `unmarked_of_isIdent`: an identifier has no mark.
  * `isIdent_exportName`: parts that are names make a name.
  * `WellNamed.isIdent_nameOf`: all functions of a block with plain names can be called.
-/

namespace HandleBridge.Binding

open HandleBridge.Source

theorem all_isIdentContinue_of_isIdent {cs : List Char} (h : Text.isIdent cs = true) :
    cs.all Text.isIdentContinue = true := by
  cases cs with
  | nil => rfl
  | cons c cs =>
    simp only [Text.isIdent, Bool.and_eq_true] at h
    rw [List.all_cons, Text.isIdentContinue_of_isIdentStart h.1, h.2]
    rfl

/-- Behind an identifier everything may stand that goes on one. -/
theorem isIdent_append_iff {cs rest : List Char} (h : Text.isIdent cs = true) :
    Text.isIdent (cs ++ rest) = true ↔ rest.all Text.isIdentContinue = true := by
  cases cs with
  | nil => cases h
  | cons c cs =>
    simp only [Text.isIdent, Bool.and_eq_true] at h
    simp [Text.isIdent, h.1, h.2]

/-- A name is marked as one that might otherwise be a keyword. -/
def IsRaw (name : String) : Prop := ∃ rest, name.toList = 'r' :: '#' :: rest

theorem mark_not_isIdentContinue : Text.isIdentContinue '#' = false := by decide +kernel

theorem unmarked_of_not_isRaw {name : String} (h : ¬ IsRaw name) : unmarked name = name := by
  unfold unmarked
  split
  · rename_i rest hn
    exact absurd ⟨rest, hn⟩ h
  · rfl

/-- The mark of a raw identifier cannot stand in one. -/
theorem unmarked_of_isIdent {name : String} (h : Text.isIdent name.toList = true) :
    unmarked name = name := by
  refine unmarked_of_not_isRaw ?_
  rintro ⟨rest, hn⟩
  rw [hn] at h
  simp [Text.isIdent, mark_not_isIdentContinue] at h

theorem isName_of_isIdent {name : String} (h : Text.isIdent name.toList = true) :
    isName name = true := by
  rw [isName, unmarked_of_isIdent h]
  exact h

theorem isIdent_exportName {type method : String} {trait? : Option String}
    (ht : Text.isIdent type.toList = true) (hr : ∀ t ∈ trait?, Text.isIdent t.toList = true)
    (hm : isName method = true) : Text.isIdent (exportName type trait? method).toList = true := by
  have hu : Text.isIdentContinue '_' = true := by decide
  have hmc := all_isIdentContinue_of_isIdent hm
  unfold exportName
  simp only [String.toList_append, List.append_assoc]
  refine (isIdent_append_iff (Text.isIdent_lowercase ht)).2 ?_
  cases trait? with
  | none => simp [hu, hmc]
  | some t =>
    have htc := all_isIdentContinue_of_isIdent (Text.isIdent_lowercase (hr t rfl))
    simp [hu, hmc, htc]

/-- The type and the trait of a block have plain names. The functions may have raw ones. -/
structure WellNamed (b : ImplBlock) : Prop where
  type_name : ∀ s ∈ b.self.lastSegment?, Text.isIdent s.name.toList = true
  trait_name : ∀ t ∈ b.trait?, Text.isIdent t.name.toList = true
  method_name : ∀ m, .method m ∈ b.items → isName m.signature.name = true

theorem WellNamed.isIdent_nameOf {b : ImplBlock} (hb : WellNamed b) {s : PathSegment} {m : Method}
    (hs : b.self.lastSegment? = some s) (hm : .method m ∈ b.items) :
    Text.isIdent (nameOf b s.name m).toList = true := by
  refine isIdent_exportName (hb.type_name s hs) ?_ (hb.method_name m hm)
  intro t ht
  obtain ⟨p, hp, rfl⟩ := Option.map_eq_some_iff.1 ht
  exact hb.trait_name p hp

end HandleBridge.Binding
