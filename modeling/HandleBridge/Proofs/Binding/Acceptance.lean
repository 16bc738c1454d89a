import HandleBridge.Proofs.Binding.Names

/-
  Which blocks are exported.

  `Exportable` says it without the decision: what the block is for, what its functions look like,
  and which of them it must have. A function that is considered may break several rules at once
  (`Flaw`), and none of them hides another one. A receiver whose type is spelled out is refused and
  then counts as no receiver, so the rules for `create` and `destroy` look past it (`Takes`).

  Proved:
  * `Tree.anyWordOf_iff`, `isScalar_iff`, `receiver?_eq_some_iff`, `returnsInstance_iff`: what the
    tests on types and functions find.
  * `mem_causes_methodObjections`, `mem_causes_blockObjections`: every rule that is broken is
    raised, and no other one.
  * `decideBlock_named`: without a misnamed export the objections alone decide.
  * `exported_iff_exportable`: exports exactly for exportable blocks, objections for all others.
-/

namespace HandleBridge

namespace Source.Tree

/-- A word stands in a row of trees, at some depth. -/
inductive Says (w : String) : List Tree → Prop where
  | here {span ts} : Says w (.word w span :: ts)
  | inside {d content span ts} : Says w content → Says w (.group d content span :: ts)
  | later {t ts} : Says w ts → Says w (t :: ts)

variable {p : String → Bool}

theorem anyWordOf_iff : (ts : List Tree) → (anyWordOf p ts = true ↔ ∃ w, Says w ts ∧ p w = true)
  | [] => by
    refine ⟨(nomatch ·), ?_⟩
    rintro ⟨w, hw, -⟩
    cases hw
  | t :: ts => by
    have ih := anyWordOf_iff ts
    rw [anyWordOf, Bool.or_eq_true, ih]
    cases t with
    | word text span =>
      constructor
      · rintro (hp | ⟨w, hw, hp⟩)
        · exact ⟨text, .here, hp⟩
        · exact ⟨w, .later hw, hp⟩
      · rintro ⟨w, hw, hp⟩
        cases hw with
        | here => exact .inl hp
        | later hw => exact .inr ⟨w, hw, hp⟩
    | group d content span =>
      have hc := anyWordOf_iff content
      rw [anyWord, hc]
      constructor
      · rintro (⟨w, hw, hp⟩ | ⟨w, hw, hp⟩)
        · exact ⟨w, .inside hw, hp⟩
        · exact ⟨w, .later hw, hp⟩
      · rintro ⟨w, hw, hp⟩
        cases hw with
        | inside hw => exact .inl ⟨w, hw, hp⟩
        | later hw => exact .inr ⟨w, hw, hp⟩
    | punct | literal =>
      constructor
      · rintro (hp | ⟨w, hw, hp⟩)
        · cases hp
        · exact ⟨w, .later hw, hp⟩
      · rintro ⟨w, hw, hp⟩
        cases hw with
        | later hw => exact .inr ⟨w, hw, hp⟩

end Source.Tree

namespace Binding

open HandleBridge.Source

variable {b : ImplBlock} {m : Method} {type : String}

/-! ## Types and parameters -/

/-- A type is a path that begins with no other type, and this is its last segment. -/
def EndsIn (t : TypeExpr) (s : PathSegment) : Prop :=
  ∃ absolute front, t.shape = .path absolute front s

theorem lastSegment?_eq_some_iff {t : TypeExpr} {s : PathSegment} :
    t.lastSegment? = some s ↔ EndsIn t s := by
  unfold TypeExpr.lastSegment? EndsIn
  cases t.shape with
  | path absolute front last => simp
  | bounds single => simp
  | other => simp

theorem EndsIn.unique {t : TypeExpr} {s s' : PathSegment} (h : EndsIn t s) (h' : EndsIn t s') :
    s = s' := by
  rw [← lastSegment?_eq_some_iff] at h h'
  exact Option.some.inj (h.symm.trans h')

theorem lastSegment?_eq_none_iff {t : TypeExpr} :
    t.lastSegment? = none ↔ ∀ s, ¬ EndsIn t s := by
  simp only [← lastSegment?_eq_some_iff, Option.eq_none_iff_forall_ne_some, ne_eq]

/-- A path that ends in the name of a scalar and has no arguments there. -/
def IsScalar (t : TypeExpr) : Prop :=
  ∃ s, EndsIn t s ∧ (∀ count ∈ s.arguments, count = 0) ∧
    s.name ∈ ["bool", "char", "i8", "i16", "i32", "i64", "isize", "u8", "u16", "u32", "u64", "usize",
      "f32", "f64"]

theorem isScalar_iff {t : TypeExpr} : isScalar t = true ↔ IsScalar t := by
  unfold isScalar IsScalar
  simp only [← lastSegment?_eq_some_iff]
  cases t.lastSegment? with
  | none => simp
  | some s =>
    have hn : scalarNames.contains s.name = true ↔ s.name ∈ scalarNames := List.contains_iff_mem
    cases h : s.arguments with
    | none =>
      rw [Bool.and_eq_true, hn]
      simp [h, scalarNames]
    | some n =>
      rw [Bool.and_eq_true, hn]
      simp [h, scalarNames]

/-- What may stand among the parameters of an exported function. -/
inductive Passes : Param → Prop where
  | receiver {kind self span} : kind ≠ .typed → Passes (.receiver kind self span)
  | scalar {name type} : IsScalar type → Passes (.named name type)

/-! ## Functions -/

/-- The function takes the instance in this way: before this receiver there are none but those whose
type is spelled out. -/
def Takes (m : Method) (kind : Receiver) : Prop :=
  kind ≠ .typed ∧ ∃ before self span after,
    m.signature.params = before ++ .receiver kind self span :: after ∧
      ∀ k s s', .receiver k s s' ∈ before → k = .typed

theorem Takes.mem {kind : Receiver} (h : Takes m kind) :
    ∃ self span, .receiver kind self span ∈ m.signature.params := by
  obtain ⟨-, before, self, span, after, hp, -⟩ := h
  refine ⟨self, span, ?_⟩
  rw [hp]
  exact List.mem_append_right _ (.head _)

theorem receiver?_eq_some_iff {kind : Receiver} : receiver? m = some kind ↔ Takes m kind := by
  unfold receiver? Takes
  rw [List.findSome?_eq_some_iff]
  constructor
  · rintro ⟨before, p, after, hp, hk, hb⟩
    cases p with
    | receiver k self span =>
      have hkt : kind ≠ .typed ∧ k = kind := by
        cases k with
        | typed => cases hk
        | borrowed =>
          cases hk
          exact ⟨by decide, rfl⟩
        | owned =>
          cases hk
          exact ⟨by decide, rfl⟩
      obtain ⟨ht, rfl⟩ := hkt
      refine ⟨ht, before, self, span, after, hp, fun k' s s' hm => ?_⟩
      have hn := hb _ hm
      cases k' with
      | typed => rfl
      | borrowed => cases hn
      | owned => cases hn
    | named name type => cases hk
    | pattern span => cases hk
  · rintro ⟨ht, before, self, span, after, hp, hb⟩
    refine ⟨before, _, after, hp, ?_, fun p hm => ?_⟩
    · cases kind with
      | typed => exact absurd rfl ht
      | borrowed => rfl
      | owned => rfl
    · cases p with
      | receiver k s s' =>
        rw [hb k s s' hm]
      | named name type => rfl
      | pattern span => rfl

/-- Somewhere the type of the result says `Self` or the name of the type. -/
def Returns (type : String) (m : Method) : Prop :=
  ∃ out ∈ m.signature.output, Tree.Says "Self" out.type.trees ∨ Tree.Says type out.type.trees

theorem returnsInstance_iff : returnsInstance type m = true ↔ Returns type m := by
  unfold returnsInstance Returns
  cases m.signature.output with
  | none => simp
  | some out =>
    simp only [Tree.anyWordOf_iff, Bool.or_eq_true, beq_iff_eq, Option.mem_some_iff,
      exists_eq_left']
    constructor
    · rintro ⟨w, hw, rfl | rfl⟩
      · exact .inl hw
      · exact .inr hw
    · rintro (hw | hw)
      · exact ⟨_, hw, .inl rfl⟩
      · exact ⟨_, hw, .inr rfl⟩

/-- The function makes the instances of its type. -/
def Makes (b : ImplBlock) (m : Method) : Prop := b.trait? = none ∧ m.signature.name = "create"

/-- The function ends the instances of its type. -/
def Ends (b : ImplBlock) (m : Method) : Prop := b.trait? = none ∧ m.signature.name = "destroy"

theorem role_eq_create_iff : role b m = .create ↔ Makes b m := by
  unfold role Makes
  cases b.trait? with
  | some t => simp
  | none =>
    by_cases hc : m.signature.name = "create"
    · simp [hc]
    · by_cases hd : m.signature.name = "destroy" <;> simp [hc, hd]

theorem role_eq_destroy_iff : role b m = .destroy ↔ Ends b m := by
  unfold role Ends
  cases b.trait? with
  | some t => simp
  | none =>
    by_cases hc : m.signature.name = "create"
    · simp [hc]
    · by_cases hd : m.signature.name = "destroy" <;> simp [hc, hd]

/-- The function is one of those that are exported. -/
def Considers (b : ImplBlock) (m : Method) : Prop :=
  .method m ∈ b.items ∧ (b.trait? ≠ none ∨ m.visibility = .everyone)

theorem isConsidered_iff :
    isConsidered b m = true ↔ b.trait? ≠ none ∨ m.visibility = .everyone := by
  simp [isConsidered, Option.isSome_iff_ne_none]

theorem mem_considered : m ∈ considered b ↔ Considers b m := by
  unfold considered Considers
  rw [List.mem_filterMap, ← isConsidered_iff]
  constructor
  · rintro ⟨item, hi, h⟩
    cases item with
    | method k =>
      by_cases hk : isConsidered b k = true
      · simp only [hk, if_true, Option.some.injEq] at h
        subst h
        exact ⟨hi, hk⟩
      · simp [hk] at h
    | other => cases h
  · rintro ⟨hi, hk⟩
    exact ⟨_, hi, by simp [hk]⟩

/-- A function that can be exported from a block for `type`. -/
structure Fits (b : ImplBlock) (type : String) (m : Method) : Prop where
  not_generic : m.signature.generics = none
  not_async : m.signature.async = none
  not_unchecked : m.signature.unchecked = none
  passes : ∀ p ∈ m.signature.params, Passes p
  makes : Makes b m → (∀ kind self span, .receiver kind self span ∉ m.signature.params) ∧
    Returns type m
  keeps : ¬ Makes b m → ¬ Returns type m
  ends : Ends b m → Takes m .owned

/-- What is wrong with a function. -/
inductive Flaw (b : ImplBlock) (type : String) (m : Method) : Objection.Cause → Prop where
  | genericMethod : m.signature.generics ≠ none → Flaw b type m .genericMethod
  | asyncMethod : m.signature.async ≠ none → Flaw b type m .asyncMethod
  | uncheckedMethod : m.signature.unchecked ≠ none → Flaw b type m .uncheckedMethod
  | typedReceiver {self span} : .receiver .typed self span ∈ m.signature.params →
      Flaw b type m .typedReceiver
  | takenApart {span} : .pattern span ∈ m.signature.params → Flaw b type m .takenApart
  | notScalar {name t} : .named name t ∈ m.signature.params → ¬ IsScalar t →
      Flaw b type m .notScalar
  | createTakesInstance {kind} : Makes b m → Takes m kind → Flaw b type m .createTakesInstance
  | createReturnsOther : Makes b m → ¬ Returns type m → Flaw b type m .createReturnsOther
  | returnsInstance : ¬ Makes b m → Returns type m → Flaw b type m .returnsInstance
  | destroyTakesNoInstance : Ends b m → ¬ Takes m .owned →
      Flaw b type m .destroyTakesNoInstance

theorem fits_iff : Fits b type m ↔ ∀ cause, ¬ Flaw b type m cause := by
  constructor
  · intro h cause hc
    cases hc with
    | genericMethod hg => exact hg h.not_generic
    | asyncMethod ha => exact ha h.not_async
    | uncheckedMethod hu => exact hu h.not_unchecked
    | typedReceiver hp =>
      cases h.passes _ hp with
      | receiver ht => exact ht rfl
    | takenApart hp => cases h.passes _ hp
    | notScalar hp hs =>
      cases h.passes _ hp with
      | scalar ht => exact hs ht
    | createTakesInstance hm ht =>
      obtain ⟨self, span, hp⟩ := ht.mem
      exact (h.makes hm).1 _ self span hp
    | createReturnsOther hm hr => exact hr (h.makes hm).2
    | returnsInstance hm hr => exact h.keeps hm hr
    | destroyTakesNoInstance he ht => exact ht (h.ends he)
  · intro h
    have hp : ∀ p ∈ m.signature.params, Passes p := by
      intro p hp
      cases p with
      | receiver kind self span =>
        refine .receiver ?_
        rintro rfl
        exact h _ (.typedReceiver hp)
      | named name t => exact .scalar (Classical.byContradiction fun hs => h _ (.notScalar hp hs))
      | pattern span => exact absurd (.takenApart hp) (h _)
    refine ⟨Classical.byContradiction fun hg => h _ (.genericMethod hg),
      Classical.byContradiction fun ha => h _ (.asyncMethod ha),
      Classical.byContradiction fun hu => h _ (.uncheckedMethod hu), hp,
      fun hm => ⟨fun kind self span hk => ?_,
        Classical.byContradiction fun hr => h _ (.createReturnsOther hm hr)⟩,
      fun hm hr => h _ (.returnsInstance hm hr),
      fun he => Classical.byContradiction fun ht => h _ (.destroyTakesNoInstance he ht)⟩
    -- some receiver comes first, and none of them has its type spelled out
    obtain ⟨k, hk⟩ : ∃ k, receiver? m = some k := by
      rw [← Option.isSome_iff_exists, receiver?, List.findSome?_isSome_iff]
      refine ⟨_, hk, ?_⟩
      cases hp _ hk with
      | receiver ht =>
        cases kind with
        | typed => exact absurd rfl ht
        | borrowed => rfl
        | owned => rfl
    exact h _ (.createTakesInstance hm (receiver?_eq_some_iff.1 hk))

/-! ## Objections to functions -/

variable {cause : Objection.Cause}

theorem mem_causes_objectionAt {c : Objection.Cause} {span : Option Span} :
    cause ∈ (objectionAt c span).map Objection.cause ↔ span ≠ none ∧ cause = c := by
  cases span <;> simp [objectionAt]

theorem mem_causes_when {p : Prop} [Decidable p] {o : Objection} :
    cause ∈ (if p then [o] else []).map Objection.cause ↔ p ∧ cause = o.cause := by
  split <;> simp_all

theorem mem_causes_unless {p : Prop} [Decidable p] {o : Objection} :
    cause ∈ (if p then [] else [o]).map Objection.cause ↔ ¬ p ∧ cause = o.cause := by
  split <;> simp_all

theorem mem_causes_qualifierObjections :
    cause ∈ (qualifierObjections m.signature).map Objection.cause ↔
      m.signature.generics ≠ none ∧ cause = .genericMethod ∨
        m.signature.async ≠ none ∧ cause = .asyncMethod ∨
        m.signature.unchecked ≠ none ∧ cause = .uncheckedMethod := by
  simp only [qualifierObjections, List.map_append, List.mem_append, mem_causes_objectionAt,
    or_assoc]

theorem mem_causes_outputObjections :
    cause ∈ (outputObjections type m).map Objection.cause ↔
      Returns type m ∧ cause = .returnsInstance := by
  unfold outputObjections
  rw [← returnsInstance_iff]
  split
  · rename_i hr
    obtain ⟨out, ho, -⟩ := returnsInstance_iff.1 hr
    rw [Option.mem_def] at ho
    rw [mem_causes_objectionAt, ho, hr]
    simp
  · rename_i hr
    simp [hr]

theorem mem_causes_paramObjections {p : Param} :
    cause ∈ (paramObjections p).map Objection.cause ↔
      (∃ self span, p = .receiver .typed self span) ∧ cause = .typedReceiver ∨
        (∃ span, p = .pattern span) ∧ cause = .takenApart ∨
        (∃ name t, p = .named name t ∧ ¬ IsScalar t) ∧ cause = .notScalar := by
  cases p with
  | receiver kind self span => cases kind <;> simp [paramObjections]
  | named name t =>
    simp only [paramObjections, mem_causes_unless, isScalar_iff]
    constructor
    · exact fun ⟨hs, hc⟩ => .inr (.inr ⟨⟨name, t, rfl, hs⟩, hc⟩)
    · rintro (⟨⟨_, _, h⟩, -⟩ | ⟨⟨_, h⟩, -⟩ | ⟨⟨_, _, h, hs⟩, hc⟩)
      · cases h
      · cases h
      · cases h
        exact ⟨hs, hc⟩
  | pattern span => simp [paramObjections]

theorem mem_causes_roleObjections :
    cause ∈ (roleObjections type (role b m) m).map Objection.cause ↔
      Makes b m ∧ (∃ kind, Takes m kind) ∧ cause = .createTakesInstance ∨
        Makes b m ∧ ¬ Returns type m ∧ cause = .createReturnsOther ∨
        ¬ Makes b m ∧ Returns type m ∧ cause = .returnsInstance ∨
        Ends b m ∧ ¬ Takes m .owned ∧ cause = .destroyTakesNoInstance := by
  rw [← role_eq_create_iff, ← role_eq_destroy_iff]
  cases role b m with
  | create =>
    simp [roleObjections, createObjections, mem_causes_when, mem_causes_unless,
      Option.isSome_iff_exists, receiver?_eq_some_iff, returnsInstance_iff]
  | destroy =>
    simp [roleObjections, destroyObjections, mem_causes_outputObjections, mem_causes_unless,
      receiver?_eq_some_iff]
  | other => simp [roleObjections, mem_causes_outputObjections]

/-- Every rule that a function breaks is raised, and no other one. -/
theorem mem_causes_methodObjections :
    cause ∈ (methodObjections type (role b m) m).map Objection.cause ↔ Flaw b type m cause := by
  simp only [methodObjections, List.map_append, List.mem_append, mem_causes_qualifierObjections,
    mem_causes_roleObjections, List.map_flatMap, List.mem_flatMap, mem_causes_paramObjections]
  constructor
  · rintro ((hq | ⟨p, hp, hc⟩) | hr)
    · rcases hq with ⟨h, rfl⟩ | ⟨h, rfl⟩ | ⟨h, rfl⟩
      · exact .genericMethod h
      · exact .asyncMethod h
      · exact .uncheckedMethod h
    · rcases hc with ⟨⟨self, span, rfl⟩, rfl⟩ | ⟨⟨span, rfl⟩, rfl⟩ | ⟨⟨name, t, rfl, hs⟩, rfl⟩
      · exact .typedReceiver hp
      · exact .takenApart hp
      · exact .notScalar hp hs
    · rcases hr with ⟨hm, ⟨kind, ht⟩, rfl⟩ | ⟨hm, hr, rfl⟩ | ⟨hm, hr, rfl⟩ | ⟨he, ht, rfl⟩
      · exact .createTakesInstance hm ht
      · exact .createReturnsOther hm hr
      · exact .returnsInstance hm hr
      · exact .destroyTakesNoInstance he ht
  · intro h
    cases h with
    | genericMethod h => exact .inl (.inl (.inl ⟨h, rfl⟩))
    | asyncMethod h => exact .inl (.inl (.inr (.inl ⟨h, rfl⟩)))
    | uncheckedMethod h => exact .inl (.inl (.inr (.inr ⟨h, rfl⟩)))
    | typedReceiver hp => exact .inl (.inr ⟨_, hp, .inl ⟨⟨_, _, rfl⟩, rfl⟩⟩)
    | takenApart hp => exact .inl (.inr ⟨_, hp, .inr (.inl ⟨⟨_, rfl⟩, rfl⟩)⟩)
    | notScalar hp hs => exact .inl (.inr ⟨_, hp, .inr (.inr ⟨⟨_, _, rfl, hs⟩, rfl⟩)⟩)
    | createTakesInstance hm ht => exact .inr (.inl ⟨hm, ⟨_, ht⟩, rfl⟩)
    | createReturnsOther hm hr => exact .inr (.inr (.inl ⟨hm, hr, rfl⟩))
    | returnsInstance hm hr => exact .inr (.inr (.inr (.inl ⟨hm, hr, rfl⟩)))
    | destroyTakesNoInstance he ht => exact .inr (.inr (.inr (.inr ⟨he, ht, rfl⟩)))

/-! ## Blocks -/

/-- A function of this name is among those that are considered. -/
def Has (b : ImplBlock) (name : String) : Prop := ∃ m, Considers b m ∧ m.signature.name = name

/-- A block that can be exported. -/
structure Exportable (b : ImplBlock) : Prop where
  not_generic : b.generics = none
  named : ∃ s, EndsIn b.self s
  fits : ∀ s, EndsIn b.self s → ∀ m, Considers b m → Fits b s.name m
  complete : b.trait? = none → Has b "create" ∧ Has b "destroy"

/-- What is wrong with the functions of a block for `type`. -/
inductive Against (b : ImplBlock) (type : String) : Objection.Cause → Prop where
  | function {m c} : Considers b m → Flaw b type m c → Against b type c
  | missing {create destroy : Bool} : b.trait? = none → (create = true ↔ ¬ Has b "create") →
      (destroy = true ↔ ¬ Has b "destroy") → create = true ∨ destroy = true →
      Against b type (.missing create destroy)

/-- No function that is considered plays a role that belongs to a name. -/
theorem lacks_iff {r : Role} {name : String} (h : ∀ m, role b m = r ↔ m.signature.name = name) :
    (!(considered b).any fun m => role b m == r) = true ↔ ¬ Has b name := by
  rw [Bool.not_eq_true', ← Bool.not_eq_true]
  refine not_congr ?_
  simp only [List.any_eq_true, mem_considered, beq_iff_eq, h]
  rfl

theorem mem_causes_missingObjections :
    cause ∈ (missingObjections b).map Objection.cause ↔
      ∃ create destroy : Bool, b.trait? = none ∧ (create = true ↔ ¬ Has b "create") ∧
        (destroy = true ↔ ¬ Has b "destroy") ∧ (create = true ∨ destroy = true) ∧
        cause = .missing create destroy := by
  have hcreate (hb : b.trait? = none) := lacks_iff (b := b) (r := .create) fun m => by
    rw [role_eq_create_iff, Makes, and_iff_right hb]
  have hdestroy (hb : b.trait? = none) := lacks_iff (b := b) (r := .destroy) fun m => by
    rw [role_eq_destroy_iff, Ends, and_iff_right hb]
  simp only [missingObjections, mem_causes_when, Bool.and_eq_true, Bool.or_eq_true,
    Option.isNone_iff_eq_none]
  constructor
  · rintro ⟨⟨hb, hl⟩, hc⟩
    exact ⟨_, _, hb, hcreate hb, hdestroy hb, hl, hc⟩
  · rintro ⟨create, destroy, hb, hc, hd, hl, rfl⟩
    rw [Bool.eq_iff_iff.2 (hc.trans (hcreate hb).symm),
      Bool.eq_iff_iff.2 (hd.trans (hdestroy hb).symm)] at hl ⊢
    exact ⟨⟨hb, hl⟩, rfl⟩

/-- What is wrong with a block is raised, and nothing else. -/
theorem mem_causes_blockObjections :
    cause ∈ (blockObjections b type).map Objection.cause ↔ Against b type cause := by
  simp only [blockObjections, List.map_append, List.mem_append, List.map_flatMap, List.mem_flatMap,
    mem_causes_methodObjections, mem_causes_missingObjections, mem_considered]
  constructor
  · rintro (⟨m, hm, hf⟩ | ⟨create, destroy, hb, hc, hd, hl, rfl⟩)
    · exact .function hm hf
    · exact .missing hb hc hd hl
  · intro h
    cases h with
    | function hm hf => exact .inl ⟨_, hm, hf⟩
    | missing hb hc hd hl => exact .inr ⟨_, _, hb, hc, hd, hl, rfl⟩

theorem blockObjections_eq_nil_iff :
    blockObjections b type = [] ↔ ∀ cause, ¬ Against b type cause := by
  simp only [← mem_causes_blockObjections]
  rw [← List.eq_nil_iff_forall_not_mem, List.map_eq_nil_iff]

theorem exportable_iff {s : PathSegment} (hg : b.generics = none) (hs : EndsIn b.self s) :
    Exportable b ↔ ∀ cause, ¬ Against b s.name cause := by
  constructor
  · intro h cause ha
    cases ha with
    | function hm hf => exact fits_iff.1 (h.fits s hs _ hm) _ hf
    | missing hb hc hd hl =>
      obtain ⟨hc', hd'⟩ := h.complete hb
      rcases hl with hl | hl
      · exact hc.1 hl hc'
      · exact hd.1 hl hd'
  · intro h
    refine ⟨hg, ⟨s, hs⟩, fun s' hs' m hm => ?_, fun hb => ?_⟩
    · rw [hs'.unique hs, fits_iff]
      exact fun cause hf => h cause (.function hm hf)
    · classical
      by_cases hc : Has b "create"
      · by_cases hd : Has b "destroy"
        · exact ⟨hc, hd⟩
        · have hm : Against b s.name (.missing false true) :=
            .missing hb (by simp [hc]) (by simp [hd]) (.inr rfl)
          exact absurd hm (h _)
      · have hm : Against b s.name (.missing true !decide (Has b "destroy")) :=
          .missing hb (by simp [hc]) (by simp) (.inl rfl)
        exact absurd hm (h _)

/-! ## The decision -/

theorem decideBlock_generic {span : Span} (hg : b.generics = some span) :
    decideBlock b = .rejected [⟨.genericBlock, span⟩] := by
  simp only [decideBlock, hg]

theorem decideBlock_unnamed (hg : b.generics = none) (hs : ∀ s, ¬ EndsIn b.self s) :
    decideBlock b = .rejected [⟨.unnamedType, b.self.span⟩] := by
  simp only [decideBlock, hg, lastSegment?_eq_none_iff.2 hs]

/-- A block with plain names is judged by its objections alone. -/
theorem decideBlock_named (hb : WellNamed b) {s : PathSegment} (hg : b.generics = none)
    (hs : EndsIn b.self s) :
    decideBlock b = if (blockObjections b s.name).isEmpty then
        .exported ⟨b.self, b.trait?, (considered b).map (exportOf b s.name)⟩
      else .rejected (blockObjections b s.name) := by
  have hl := lastSegment?_eq_some_iff.2 hs
  have hn : (considered b).find? (fun m => !isName (nameOf b s.name m)) = none := by
    rw [List.find?_eq_none]
    intro m hm
    rw [isName_of_isIdent (hb.isIdent_nameOf hl (mem_considered.1 hm).1)]
    decide
  simp only [decideBlock, hg, hl, hn]

theorem not_exported_of_rejected {objections : List Objection}
    (hd : decideBlock b = .rejected objections) : ¬ ∃ plan, decideBlock b = .exported plan := by
  rintro ⟨plan, hp⟩
  rw [hd] at hp
  cases hp

/-- A request without arguments exports exactly what can be exported. Any other block is turned
away with objections and without an export: with one objection if the block has parameters, or else
is for no named type, and otherwise with all that is wrong with its functions. -/
theorem exported_iff_exportable (b : ImplBlock) (hb : WellNamed b) :
    (∀ item, ImplBlock.ofTrees item = .ok b → answer [] item = .ok (decideBlock b)) ∧
      ((∃ plan, decideBlock b = .exported plan) ↔ Exportable b) ∧
      (¬ Exportable b → ∃ objections, decideBlock b = .rejected objections ∧ objections ≠ [] ∧
        (∀ span, b.generics = some span → objections = [⟨.genericBlock, span⟩]) ∧
        (b.generics = none → (∀ s, ¬ EndsIn b.self s) →
          objections = [⟨.unnamedType, b.self.span⟩]) ∧
        (∀ s, b.generics = none → EndsIn b.self s → ∀ cause,
          cause ∈ objections.map Objection.cause ↔ Against b s.name cause)) := by
  refine ⟨fun item hi => ?_, ?_⟩
  · rw [answer, hi]
    rfl
  cases hg : b.generics with
  | some span =>
    have hd := decideBlock_generic hg
    have hx : ¬ Exportable b := fun h => nomatch hg.symm.trans h.not_generic
    refine ⟨iff_of_false (not_exported_of_rejected hd) hx, fun _ => ?_⟩
    refine ⟨_, hd, List.cons_ne_nil _ _, ?_, (nomatch ·), fun _ => (nomatch ·)⟩
    rintro _ ⟨⟩
    rfl
  | none =>
    by_cases hs : ∃ s, EndsIn b.self s
    · obtain ⟨s, hs⟩ := hs
      have hd := decideBlock_named hb hg hs
      rw [exportable_iff hg hs, ← blockObjections_eq_nil_iff]
      by_cases hn : blockObjections b s.name = []
      · rw [hn] at hd
        exact ⟨iff_of_true ⟨_, hd⟩ hn, fun h => absurd hn h⟩
      · have he : (blockObjections b s.name).isEmpty = false := by
          rw [List.isEmpty_eq_false_iff]
          exact hn
        rw [he] at hd
        refine ⟨iff_of_false (not_exported_of_rejected hd) hn, fun _ => ?_⟩
        refine ⟨_, hd, hn, fun _ => (nomatch ·), fun _ h => absurd hs (h s), ?_⟩
        intro s' _ hs' cause
        rw [hs'.unique hs, mem_causes_blockObjections]
    · have hs' : ∀ s, ¬ EndsIn b.self s := fun s h => hs ⟨s, h⟩
      have hd := decideBlock_unnamed hg hs'
      have hx : ¬ Exportable b := fun h => hs h.named
      refine ⟨iff_of_false (not_exported_of_rejected hd) hx, fun _ => ?_⟩
      exact ⟨_, hd, List.cons_ne_nil _ _, fun _ => (nomatch ·), fun _ _ => rfl,
        fun s _ h => absurd h (hs' s)⟩

/-- A `destroy` with a receiver whose type is spelled out is wrong twice. -/
theorem typed_destroy_turned_away :
    let widget : TypeExpr := ⟨[.word "Widget" .nowhere], .path false [] ⟨"Widget", none⟩⟩
    let signature := fun name params output =>
      (⟨.nowhere, name, none, none, none, params, output⟩ : Signature)
    let create : Method := ⟨[], .everyone, signature "create" [] (some ⟨widget, .nowhere⟩)⟩
    let destroy : Method :=
      ⟨[], .everyone, signature "destroy" [.receiver .typed .nowhere .nowhere] none⟩
    let b : ImplBlock := ⟨none, none, widget, [.method create, .other, .method destroy]⟩
    WellNamed b ∧ ¬ Exportable b ∧ ∃ objections, decideBlock b = .rejected objections ∧
      .typedReceiver ∈ objections.map Objection.cause ∧
      .destroyTakesNoInstance ∈ objections.map Objection.cause := by
  intro widget signature create destroy b
  have hb : WellNamed b := by
    refine ⟨?_, fun t => (nomatch ·), ?_⟩
    · rintro s ⟨⟩
      decide +kernel
    · intro m hm
      simp only [b, List.mem_cons, List.not_mem_nil, reduceCtorEq, Item.method.injEq, or_false,
        false_or] at hm
      rcases hm with rfl | rfl <;> decide +kernel
  have hs : EndsIn b.self ⟨"Widget", none⟩ := ⟨_, _, rfl⟩
  have hm : Considers b destroy := ⟨.tail _ (.tail _ (.head _)), .inr rfl⟩
  have ht : Flaw b "Widget" destroy .typedReceiver := .typedReceiver (.head _)
  have he : Flaw b "Widget" destroy .destroyTakesNoInstance := by
    refine .destroyTakesNoInstance ⟨rfl, rfl⟩ fun h => ?_
    rw [← receiver?_eq_some_iff] at h
    cases h
  have hx : ¬ Exportable b := fun h => fits_iff.1 (h.fits _ hs _ hm) _ ht
  obtain ⟨objections, hd, -, -, -, hc⟩ := (exported_iff_exportable b hb).2.2 hx
  exact ⟨hb, hx, objections, hd, (hc _ rfl hs _).2 (.function hm ht),
    (hc _ rfl hs _).2 (.function hm he)⟩

end Binding

end HandleBridge
