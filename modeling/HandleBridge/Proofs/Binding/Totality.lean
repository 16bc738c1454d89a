import HandleBridge.Proofs.Binding.Acceptance
import HandleBridge.Proofs.Source.Lexing

/-
  Every request is settled, unless the trait has a raw name.

  All names in a block are words of its text, so they are names: identifiers, or raw ones behind
  their mark. The small forms of the type and the trait keep the mark, and the function loses it. In
  front of an export name a mark does no harm. But one in its middle makes it no name, and then
  nothing is exported and nothing is objected to: the naming itself fails. So a block for a trait
  with a raw name is the only one that is not settled (`Misnames`).

  Proved:
  * `namedBy_of_text`: the names in a block that was read from a text are names.
  * `isName_exportName_iff`: an export has a name unless that of the trait is raw.
  * `settles_of_not_misnames`, `misnamed_of_misnames`: which blocks are settled, and what becomes of
    the others.
  * `settles_unless_trait_raw`: all requests, from the text on.
-/

namespace HandleBridge.Binding

open HandleBridge.Source

/-! ## Names -/

theorem toList_unmarked_of_isRaw {name : String} {rest : List Char}
    (h : name.toList = 'r' :: '#' :: rest) : (unmarked name).toList = rest := by
  unfold unmarked
  split
  · rename_i rest' hn
    rw [h] at hn
    cases hn
    exact String.toList_ofList
  · rename_i hn
    exact absurd h (hn rest)

/-- A name is an identifier, or one behind the mark. -/
theorem isName_cases {name : String} (h : isName name = true) :
    (¬ IsRaw name ∧ Text.isIdent name.toList = true) ∨
      ∃ rest, name.toList = 'r' :: '#' :: rest ∧ Text.isIdent rest = true := by
  by_cases hr : IsRaw name
  · obtain ⟨rest, hn⟩ := hr
    rw [isName, toList_unmarked_of_isRaw hn] at h
    exact .inr ⟨rest, hn, h⟩
  · rw [isName, unmarked_of_not_isRaw hr] at h
    exact .inl ⟨hr, h⟩

theorem accepts_isName : Accepts isName := by
  constructor
  · intro cs h
    exact isName_of_isIdent (by rwa [String.toList_ofList])
  · intro cs h
    rw [isName, toList_unmarked_of_isRaw String.toList_ofList]
    exact h

/-- The names in a block that was read from a text are names. -/
theorem namedBy_of_text {text : String} {item : List Tree} {b : ImplBlock}
    (hp : treesOf? text = some item) (hb : ImplBlock.ofTrees item = .ok b) : b.NamedBy isName :=
  ImplBlock.namedBy_of_ofTrees (allWords_of_treesOf accepts_isName hp) hb

/-! ## Names of exports -/

/-- The small form of a raw name keeps its mark. -/
theorem toList_lowercase_of_isRaw {name : String} {rest : List Char}
    (h : name.toList = 'r' :: '#' :: rest) :
    (Text.lowercase name).toList = 'r' :: '#' :: Text.lowerFrom ['#', 'r'] rest := by
  have hr : Text.lowerChar 'r' = 'r' ∧ Text.lowerChar '#' = '#' := by decide
  rw [Text.lowercase, String.toList_ofList, h]
  simp [Text.lowerFrom, hr]

theorem isName_lowercase {name : String} (h : isName name = true) :
    isName (Text.lowercase name) = true := by
  rcases isName_cases h with ⟨-, hi⟩ | ⟨rest, hn, hi⟩
  · exact isName_of_isIdent (Text.isIdent_lowercase hi)
  · rw [isName, toList_unmarked_of_isRaw (toList_lowercase_of_isRaw hn)]
    exact Text.isIdent_lowerFrom hi _

/-- Inside a name the small form of another one may stand if it has no mark. -/
theorem lowercase_continues_iff {name : String} (h : isName name = true) :
    (Text.lowercase name).toList.all Text.isIdentContinue = true ↔ ¬ IsRaw name := by
  rcases isName_cases h with ⟨hr, hi⟩ | ⟨rest, hn, -⟩
  · exact iff_of_true (all_isIdentContinue_of_isIdent (Text.isIdent_lowercase hi)) hr
  · refine iff_of_false ?_ fun hr => hr ⟨rest, hn⟩
    rw [toList_lowercase_of_isRaw hn]
    simp [mark_not_isIdentContinue]

/-- With an underscore behind it an identifier does not become a mark. -/
theorem not_isRaw_append {name tail : String} (h : Text.isIdent name.toList = true) :
    ¬ IsRaw (name ++ "_" ++ tail) := by
  rintro ⟨rest, hn⟩
  simp only [String.toList_append, List.append_assoc] at hn
  cases hc : name.toList with
  | nil =>
    rw [hc] at h
    cases h
  | cons c cs =>
    rw [hc] at h hn
    cases cs with
    | nil => simp at hn
    | cons d ds =>
      have hd : d = '#' := by
        simp only [List.cons_append, List.cons.injEq] at hn
        exact hn.2.1
      rw [hd] at h
      simp [Text.isIdent, mark_not_isIdentContinue] at h

/-- Behind a name and an underscore everything may stand that goes on an identifier. -/
theorem isName_append_iff {name tail : String} (h : isName name = true) :
    isName (name ++ "_" ++ tail) = true ↔ tail.toList.all Text.isIdentContinue = true := by
  have hu : Text.isIdentContinue '_' = true := by decide
  rcases isName_cases h with ⟨-, hi⟩ | ⟨rest, hn, hi⟩
  · rw [isName, unmarked_of_not_isRaw (not_isRaw_append hi)]
    simp only [String.toList_append, List.append_assoc]
    rw [isIdent_append_iff hi]
    simp [hu]
  · have hl : (name ++ "_" ++ tail).toList = 'r' :: '#' :: (rest ++ '_' :: tail.toList) := by
      simp [hn]
    rw [isName, toList_unmarked_of_isRaw hl, isIdent_append_iff hi]
    simp [hu]

/-- An export has a name unless that of the trait is raw. -/
theorem isName_exportName_iff {type method : String} {trait? : Option String}
    (ht : isName type = true) (hr : ∀ t ∈ trait?, isName t = true) (hm : isName method = true) :
    isName (exportName type trait? method) = true ↔ ∀ t ∈ trait?, ¬ IsRaw t := by
  have hu : Text.isIdentContinue '_' = true := by decide
  have hmc := all_isIdentContinue_of_isIdent hm
  unfold exportName
  rw [String.append_assoc, isName_append_iff (isName_lowercase ht)]
  cases trait? with
  | none => simpa using hmc
  | some t => simpa [hu, hmc] using lowercase_continues_iff (hr t rfl)

/-! ## Blocks -/

/-- A function of a block gets a name unless that of the trait is raw. -/
theorem isName_nameOf_iff {b : ImplBlock} (hb : b.NamedBy isName) {s : PathSegment}
    (hs : EndsIn b.self s) {m : Method} (hm : .method m ∈ b.items) :
    isName (nameOf b s.name m) = true ↔ ∀ t ∈ b.trait?, ¬ IsRaw t.name := by
  have hself : isName s.name = true :=
    TypeExpr.name_of_namedBy hb.self (lastSegment?_eq_some_iff.2 hs)
  have htrait : ∀ t ∈ b.trait?.map TraitPath.name, isName t = true := by
    intro t ht
    obtain ⟨p, hp, rfl⟩ := Option.map_eq_some_iff.1 ht
    exact hb.trait p hp
  refine (isName_exportName_iff hself htrait (hb.items _ hm)).trans ?_
  simp

/-- A block that is for a named type and has no parameters, but is for a trait with a raw name and
has functions. -/
structure Misnames (b : ImplBlock) : Prop where
  not_generic : b.generics = none
  named : ∃ s, EndsIn b.self s
  raw_trait : ∃ t ∈ b.trait?, IsRaw t.name
  has_functions : ∃ m, .method m ∈ b.items

/-- A verdict is settled: exports with names, or objections, of which there is one. -/
def Verdict.Settles : Verdict → Prop
  | .exported plan => ∀ e ∈ plan.exports, isName e.name = true
  | .rejected objections => objections ≠ []
  | .misnamed _ => False

/-- If no name fails, either all functions are exported under names or there is an objection. -/
theorem settles_of_isName {b : ImplBlock} {s : PathSegment} (hg : b.generics = none)
    (hs : EndsIn b.self s) (hn : ∀ m ∈ considered b, isName (nameOf b s.name m) = true) :
    (decideBlock b).Settles := by
  have hf : (considered b).find? (fun m => !isName (nameOf b s.name m)) = none := by
    rw [List.find?_eq_none]
    intro m hm
    simp [hn m hm]
  simp only [decideBlock, hg, lastSegment?_eq_some_iff.2 hs, hf]
  split
  · intro e he
    obtain ⟨m, hm, rfl⟩ := List.mem_map.1 he
    exact hn m hm
  · rename_i ho
    simpa [Verdict.Settles] using ho

theorem settles_of_not_misnames {b : ImplBlock} (hb : b.NamedBy isName) (h : ¬ Misnames b) :
    (decideBlock b).Settles := by
  cases hg : b.generics with
  | some span =>
    rw [decideBlock_generic hg]
    exact List.cons_ne_nil _ _
  | none =>
    by_cases hs : ∃ s, EndsIn b.self s
    · obtain ⟨s, hs⟩ := hs
      refine settles_of_isName hg hs fun m hm => ?_
      have hi := (mem_considered.1 hm).1
      exact (isName_nameOf_iff hb hs hi).2 fun t ht hr => h ⟨hg, ⟨s, hs⟩, ⟨t, ht, hr⟩, m, hi⟩
    · rw [decideBlock_unnamed hg (not_exists.1 hs)]
      exact List.cons_ne_nil _ _

/-- Where the trait has a raw name, the first function gets none, whatever else the block is. -/
theorem misnamed_of_misnames {b : ImplBlock} (hb : b.NamedBy isName) (h : Misnames b) :
    ∃ s m, EndsIn b.self s ∧ .method m ∈ b.items ∧
      decideBlock b = .misnamed (unmarked (nameOf b s.name m)) := by
  obtain ⟨hg, ⟨s, hs⟩, ⟨t, ht, hr⟩, m, hi⟩ := h
  have ht' : b.trait? ≠ none := Option.ne_none_iff_exists'.2 ⟨t, ht⟩
  have hn : ¬ isName (nameOf b s.name m) = true := fun hn =>
    (isName_nameOf_iff hb hs hi).1 hn t ht hr
  simp only [decideBlock, hg, lastSegment?_eq_some_iff.2 hs]
  split
  · rename_i k hf
    exact ⟨s, k, hs, (mem_considered.1 (List.mem_of_find?_eq_some hf)).1, rfl⟩
  · rename_i hf
    rw [List.find?_eq_none] at hf
    exact absurd (hf m (mem_considered.2 ⟨hi, .inl ht'⟩)) (by simpa using hn)

/-! ## Requests -/

/-- Every request to export a block that was read from a text is answered with exports that have
names, or with at least one objection. The only exception is a request without arguments that is
about the functions of a trait with a raw name: its answer is a name that cannot be given. -/
theorem settles_unless_trait_raw {text : String} {item : List Tree} {b : ImplBlock}
    (hp : treesOf? text = some item) (hb : ImplBlock.ofTrees item = .ok b)
    (arguments : List Tree) :
    ∃ verdict, answer arguments item = .ok verdict ∧
      (¬ (arguments = [] ∧ Misnames b) → verdict.Settles) ∧
      (arguments = [] → Misnames b → ∃ s m, EndsIn b.self s ∧ .method m ∈ b.items ∧
        verdict = .misnamed (unmarked (nameOf b s.name m))) := by
  have hn := namedBy_of_text hp hb
  cases arguments with
  | nil =>
    refine ⟨decideBlock b, ?_, fun h => ?_, fun _ => misnamed_of_misnames hn⟩
    · rw [answer, hb]
      rfl
    · exact settles_of_not_misnames hn fun hm => h ⟨rfl, hm⟩
  | cons t ts =>
    exact ⟨_, rfl, fun _ => List.cons_ne_nil _ _, fun h => absurd h (List.cons_ne_nil t ts)⟩

/-- A block is read from a fixed text and looked at. -/
theorem exists_block (text : String) (p : ImplBlock → Bool)
    (h : (treesOf? text).any (fun item => match ImplBlock.ofTrees item with
      | .ok b => p b
      | .error _ => false) = true) :
    ∃ item b, treesOf? text = some item ∧ ImplBlock.ofTrees item = .ok b ∧ p b = true := by
  cases hp : treesOf? text with
  | none =>
    rw [hp] at h
    cases h
  | some item =>
    rw [hp, Option.any_some] at h
    split at h
    · rename_i b hb
      exact ⟨item, b, rfl, hb, h⟩
    · cases h

/-- The names of a type and of a function may be raw. -/
theorem raw_type_and_function_settle :
    let text := "impl Shape for r#match \x7b fn r#type(&self) -> u32 \x7b 0 \x7d \x7d"
    ∃ item b verdict, treesOf? text = some item ∧ ImplBlock.ofTrees item = .ok b ∧
      answer [] item = .ok verdict ∧ verdict.Settles := by
  intro text
  obtain ⟨item, b, hp, hb, ht⟩ :=
    exists_block text (fun b => b.trait?.map TraitPath.name == some "Shape") (by decide +kernel)
  obtain ⟨verdict, hv, hs⟩ := settles_unless_trait_raw hp hb []
  refine ⟨item, b, verdict, hp, hb, hv, hs.1 fun h => ?_⟩
  obtain ⟨t, hm, rest, hr⟩ := h.2.raw_trait
  rw [Option.mem_def.1 hm, beq_iff_eq, Option.map_some, Option.some.injEq] at ht
  rw [ht] at hr
  exact absurd (List.cons.inj hr).1 (by decide)

/-- The name of a trait may not. -/
theorem raw_trait_not_settled :
    let text := "impl r#trait for Widget \x7b fn describe(&self) -> u32 \x7b 0 \x7d \x7d"
    ∃ item b verdict, treesOf? text = some item ∧ ImplBlock.ofTrees item = .ok b ∧
      answer [] item = .ok verdict ∧ verdict = .misnamed "widget_r#trait_describe" ∧
      ¬ verdict.Settles := by
  intro text
  obtain ⟨item, b, hp, hb, hd⟩ := exists_block text (fun b => match decideBlock b with
    | .misnamed name => name == "widget_r#trait_describe"
    | _ => false) (by decide +kernel)
  have hv : decideBlock b = .misnamed "widget_r#trait_describe" := by
    split at hd
    · rename_i name he
      rw [he, beq_iff_eq.1 hd]
    · cases hd
  refine ⟨item, b, _, hp, hb, ?_, hv, ?_⟩
  · rw [answer, hb]
    rfl
  · rw [hv]
    exact id

end HandleBridge.Binding
