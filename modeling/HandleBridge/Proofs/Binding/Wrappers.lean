import Mathlib.Data.List.Forall2
import HandleBridge.Binding.Written
import HandleBridge.Source.Lexer
import HandleBridge.Proofs.Binding.Acceptance
import HandleBridge.Proofs.Source.Receivers

/-
  What the exports of an accepted block look like.

  `Wraps` compares an export with the function that it calls: its name, its parameters, whether it
  takes a handle, and how the call gets through. `Covers` goes along the items of a block, so that
  every considered function has its export in its place and nothing else has one. In a block that
  was read the receiver is the first parameter, so the handle may stand in front.

  `Spells` and `Stores` say token by token how an export and a store are written out, and mention
  nothing of what writes them. Only types and comments are taken over from the block, as they
  stand there (`Tree.Written`).

  Proved:
  * `Tree.written_tokensOf`: the tokens of trees.
  * `reaches_route`: how a function that fits is reached.
  * `wraps_exportOf`: its export.
  * `covers_considered`: the exports of a block, item by item.
  * `spells_exportTokens`, `stores_storeTokens`: the text of an export and of a store.
  * `one_export_per_function`: all of it for a block that was read and accepted.
-/

namespace HandleBridge

namespace Source.Tree

/-- The tokens of a row of trees, those of a group between its delimiters. -/
inductive Written : List Tree → List String → Prop where
  | nil : Written [] []
  | word {text span ts tokens} : Written ts tokens → Written (.word text span :: ts) (text :: tokens)
  | punct {c joint span ts tokens} : Written ts tokens →
      Written (.punct c joint span :: ts) (String.singleton c :: tokens)
  | literal {text span ts tokens} : Written ts tokens →
      Written (.literal text span :: ts) (text :: tokens)
  | parentheses {content inner span ts tokens} : Written content inner → Written ts tokens →
      Written (.group .parenthesis content span :: ts) ("(" :: inner ++ ")" :: tokens)
  | brackets {content inner span ts tokens} : Written content inner → Written ts tokens →
      Written (.group .bracket content span :: ts) ("[" :: inner ++ "]" :: tokens)
  | braces {content inner span ts tokens} : Written content inner → Written ts tokens →
      Written (.group .brace content span :: ts) ("\x7b" :: inner ++ "\x7d" :: tokens)

theorem written_tokensOf : (ts : List Tree) → Written ts (tokensOf ts)
  | [] => .nil
  | .word _ _ :: ts => .word (written_tokensOf ts)
  | .punct _ _ _ :: ts => .punct (written_tokensOf ts)
  | .literal _ _ :: ts => .literal (written_tokensOf ts)
  | .group d content span :: ts => by
    have hc := written_tokensOf content
    have ht := written_tokensOf ts
    rw [tokensOf, tokens, List.append_assoc]
    cases d with
    | parenthesis => exact .parentheses hc ht
    | bracket => exact .brackets hc ht
    | brace => exact .braces hc ht

end Source.Tree

namespace Binding

open HandleBridge.Source

variable {b : ImplBlock} {m : Method} {type : String}

/-! ## Functions and their exports -/

/-- What an export passes on: the instance under the name that its handle is replaced by, then its
own parameters. -/
def Export.arguments (e : Export) : List String :=
  (if e.route.takesHandle then ["__theus_this"] else []) ++ e.params.map ScalarParam.name

/-- An argument stands where the parameter does that it is for. -/
inductive Fills : Param → String → Prop where
  | receiver {kind self span} : Fills (.receiver kind self span) "__theus_this"
  | named {name type} : Fills (.named name type) name

/-- Among the parameters is the instance, taken in this way. -/
def Receives (m : Method) (kind : Receiver) : Prop :=
  ∃ self span, .receiver kind self span ∈ m.signature.params

/-- A name, and what is left of it without the mark of a raw identifier. -/
inductive Unmarks : String → String → Prop where
  | plain {name} : ¬ IsRaw name → Unmarks name name
  | raw {name} : Unmarks ("r#" ++ name) name

theorem unmarks_unmarked (name : String) : Unmarks name (unmarked name) := by
  by_cases h : IsRaw name
  · obtain ⟨rest, hr⟩ := h
    have hn : name = "r#" ++ String.ofList rest := String.toList_inj.1 (by simp [hr])
    have hu : unmarked name = String.ofList rest := by simp only [unmarked, hr]
    rw [hu, hn]
    exact .raw
  · rw [unmarked_of_not_isRaw h]
    exact .plain h

/-- An export of a function of a block for `type`. -/
structure Wraps (b : ImplBlock) (type : String) (m : Method) (e : Export) : Prop where
  docs_eq : e.docs = m.attributes.filter Attribute.isDoc
  name_eq : ∃ plain, Unmarks m.signature.name plain ∧ e.name = Text.lowercase type ++ "_" ++
    (b.trait?.elim "" fun t => Text.lowercase t.name ++ "_") ++ plain
  method_eq : e.method = m.signature.name
  params_eq : e.params.map (fun p => .named p.name p.type) =
    m.signature.params.filter fun p => !p.isReceiver
  takesHandle_iff : e.route.takesHandle = true ↔ ∃ kind, Receives m kind
  arguments_fill : List.Forall₂ Fills m.signature.params e.arguments
  create_iff : e.route = .create ↔ Makes b m
  borrow_iff : e.route = .borrow ↔ Receives m .borrowed
  destroy_iff : e.route = .destroy ↔ Ends b m
  consume_iff : e.route = .consume ↔ Receives m .owned ∧ ¬ Ends b m
  direct_iff : e.route = .direct ↔ (∀ kind, ¬ Receives m kind) ∧ ¬ Makes b m
  output_eq : e.output = m.signature.output.map Output.type

theorem receiver?_eq_some_iff_receives (hr : ReceiverFirst m.signature.params)
    (hp : ∀ p ∈ m.signature.params, Passes p) {kind : Receiver} :
    receiver? m = some kind ↔ Receives m kind := by
  rw [receiver?_eq_some_iff]
  constructor
  · exact Takes.mem
  · rintro ⟨self, span, h⟩
    have ht : kind ≠ .typed := by
      cases hp _ h with
      | receiver ht => exact ht
    obtain ⟨before, after, he⟩ := List.append_of_mem h
    refine ⟨ht, before, self, span, after, he, ?_⟩
    cases before with
    | nil => exact fun _ _ _ hk => nomatch hk
    | cons q before =>
      -- then this receiver would not be the first parameter
      have hn := hr (.receiver kind self span) (by rw [he]; simp)
      cases hn

/-- How a function is reached, by what it is for and how it takes the instance. The ways that are
missing here, such as a `create` with an instance, are objected to. -/
inductive Reaches (b : ImplBlock) (m : Method) : Option Receiver → Route → Prop where
  | create : Makes b m → ¬ Ends b m → Reaches b m none .create
  | direct : ¬ Makes b m → ¬ Ends b m → Reaches b m none .direct
  | borrow : ¬ Makes b m → ¬ Ends b m → Reaches b m (some .borrowed) .borrow
  | destroy : ¬ Makes b m → Ends b m → Reaches b m (some .owned) .destroy
  | consume : ¬ Makes b m → ¬ Ends b m → Reaches b m (some .owned) .consume

theorem Reaches.iffs {k : Option Receiver} {r : Route} (h : Reaches b m k r) :
    (r.takesHandle = true ↔ ∃ kind, k = some kind) ∧ (r = .create ↔ Makes b m) ∧
      (r = .borrow ↔ k = some .borrowed) ∧ (r = .destroy ↔ Ends b m) ∧
      (r = .consume ↔ k = some .owned ∧ ¬ Ends b m) ∧
      (r = .direct ↔ (∀ kind, k ≠ some kind) ∧ ¬ Makes b m) := by
  cases h <;> simp [*, Route.takesHandle]

theorem reaches_route (h : Fits b type m) : Reaches b m (receiver? m) (route (role b m) m) := by
  have hc := role_eq_create_iff (b := b) (m := m)
  have hd := role_eq_destroy_iff (b := b) (m := m)
  unfold route
  cases hr : role b m with
  | create =>
    rw [hr] at hc hd
    have hm := hc.1 rfl
    have hn : receiver? m = none := by
      rw [Option.eq_none_iff_forall_ne_some]
      intro kind hk
      obtain ⟨self, span, hp⟩ := (receiver?_eq_some_iff.1 hk).mem
      exact (h.makes hm).1 kind self span hp
    rw [hn]
    exact .create hm fun he => nomatch hd.2 he
  | destroy =>
    rw [hr] at hc hd
    have he := hd.1 rfl
    rw [receiver?_eq_some_iff.2 (h.ends he)]
    exact .destroy (fun hm => nomatch hc.2 hm) he
  | other =>
    rw [hr] at hc hd
    have hm : ¬ Makes b m := fun hm => nomatch hc.2 hm
    have he : ¬ Ends b m := fun he => nomatch hd.2 he
    cases hk : receiver? m with
    | none => exact .direct hm he
    | some kind =>
      cases kind with
      | borrowed => exact .borrow hm he
      | owned => exact .consume hm he
      | typed => exact absurd rfl (receiver?_eq_some_iff.1 hk).1

theorem scalarParams_eq (h : ∀ p ∈ m.signature.params, Passes p) :
    (scalarParams m).map (fun p => Param.named p.name p.type) =
      m.signature.params.filter fun p => !p.isReceiver := by
  unfold scalarParams
  generalize m.signature.params = ps at h
  induction ps with
  | nil => rfl
  | cons p ps ih =>
    have ih := ih fun q hq => h q (.tail _ hq)
    cases h p (.head _) with
    | receiver => simpa using ih
    | scalar hs => simpa [isScalar_iff.2 hs] using ih

theorem wraps_exportOf (h : Fits b type m) (hr : ReceiverFirst m.signature.params) :
    Wraps b type m (exportOf b type m) := by
  have hp := scalarParams_eq h.passes
  obtain ⟨handle, create, borrow, destroy, consume, direct⟩ := (reaches_route h).iffs
  simp only [ne_eq, receiver?_eq_some_iff_receives hr h.passes] at handle borrow consume direct
  refine {
    docs_eq := rfl
    name_eq := ⟨_, unmarks_unmarked _, ?_⟩
    method_eq := rfl
    params_eq := hp
    takesHandle_iff := handle
    arguments_fill := ?_
    create_iff := create
    borrow_iff := borrow
    destroy_iff := destroy
    consume_iff := consume
    direct_iff := direct
    output_eq := rfl }
  · show exportName _ _ _ = _
    unfold exportName
    cases b.trait? <;> rfl
  · -- the parameters that are no receivers fill themselves
    have hf : List.Forall₂ Fills (m.signature.params.filter fun p => !p.isReceiver)
        ((scalarParams m).map ScalarParam.name) := by
      rw [← hp, List.forall₂_map_left_iff, List.forall₂_map_right_iff, List.forall₂_same]
      exact fun p _ => .named
    rcases receiverFirst_cases hr with ⟨kind, self, span, he⟩ | ⟨he, hn⟩
    · have ht : (exportOf b type m).route.takesHandle = true :=
        handle.2 ⟨kind, self, span, by rw [he]; exact .head _⟩
      rw [Export.arguments, ht, he]
      exact .cons .receiver hf
    · have ht : (exportOf b type m).route.takesHandle = false := by
        rw [← Bool.not_eq_true]
        intro ht
        obtain ⟨kind, self, span, hk⟩ := handle.1 ht
        exact hn kind self span hk
      rw [Export.arguments, ht, he]
      exact hf

/-! ## Items and exports -/

/-- Each considered function has its export, in the order of the items, and nothing else has one. -/
inductive Covers (b : ImplBlock) (W : Method → Export → Prop) : List Item → List Export → Prop where
  | nil : Covers b W [] []
  | wrapped {m e items exports} : b.trait? ≠ none ∨ m.visibility = .everyone → W m e →
      Covers b W items exports → Covers b W (.method m :: items) (e :: exports)
  | withheld {m items exports} : b.trait? = none → m.visibility ≠ .everyone →
      Covers b W items exports → Covers b W (.method m :: items) exports
  | passed {items exports} : Covers b W items exports → Covers b W (.other :: items) exports

theorem covers_considered {W : Method → Export → Prop} {f : Method → Export}
    (h : ∀ m, Considers b m → W m (f m)) : Covers b W b.items ((considered b).map f) := by
  unfold considered
  have h : ∀ m, .method m ∈ b.items → b.trait? ≠ none ∨ m.visibility = .everyone → W m (f m) :=
    fun m hm hc => h m ⟨hm, hc⟩
  generalize b.items = items at h
  induction items with
  | nil => exact .nil
  | cons item items ih =>
    have ih := ih fun m hm => h m (.tail _ hm)
    cases item with
    | other => exact .passed ih
    | method m =>
      by_cases hc : isConsidered b m = true
      · simp only [List.filterMap_cons, hc, if_true, List.map_cons]
        exact .wrapped (isConsidered_iff.1 hc) (h m (.head _) (isConsidered_iff.1 hc)) ih
      · simp only [List.filterMap_cons, hc, Bool.false_eq_true, if_false]
        rw [isConsidered_iff, not_or, not_not] at hc
        exact .withheld hc.1 hc.2 ih

theorem Covers.exists_method {W : Method → Export → Prop} {items : List Item}
    {exports : List Export} (h : Covers b W items exports) : ∀ e ∈ exports, ∃ m, W m e := by
  induction h with
  | nil => exact fun e he => nomatch he
  | wrapped _ hw _ ih =>
    intro e he
    rcases List.mem_cons.1 he with rfl | he
    · exact ⟨_, hw⟩
    · exact ih e he
  | withheld _ _ _ ih => exact ih
  | passed _ ih => exact ih

/-! ## The text of an export -/

/-- Pieces with commas between them, perhaps with one more behind the last. -/
inductive Listed : List (List String) → List String → Prop where
  | nil : Listed [] []
  | last {piece} : Listed [piece] piece
  | cons {piece pieces ts} : Listed pieces ts → Listed (piece :: pieces) (piece ++ "," :: ts)

theorem listed_commas (pieces : List (List String)) : Listed pieces (commas pieces) := by
  induction pieces with
  | nil => exact .nil
  | cons piece pieces ih =>
    cases pieces with
    | nil =>
      rw [commas, List.intercalate_singleton]
      exact .last
    | cons next pieces =>
      rw [commas, List.intercalate_cons_cons, List.append_assoc]
      exact .cons ih

/-- A parameter with its type. -/
inductive Declares : ScalarParam → List String → Prop where
  | intro {p type} : Tree.Written p.type.trees type → Declares p (p.name :: ":" :: type)

/-- The function that is called, by its full path: `<T>::f`, or `<T as U>::f` in a block for the
trait `U`. -/
inductive Calls (self : List String) (method : String) : Option TraitPath → List String → Prop where
  | own : Calls self method none ("<" :: self ++ [">", ":", ":", method])
  | ofTrait {t trait} : Tree.Written t.trees trait →
      Calls self method (some t) ("<" :: self ++ "as" :: trait ++ [">", ":", ":", method])

/-- What an export answers: a handle if it creates one, else what its result becomes at the
boundary. -/
inductive Answers (e : Export) : List String → Prop where
  | handle : e.route = .create → Answers e ["u32"]
  | nothing : e.route ≠ .create → e.output = none → Answers e
      ["<", "(", ")", "as", ":", ":", "theus_core", ":", ":", "IntoBoundary", ">", ":", ":", "Abi"]
  | value {t type} : e.route ≠ .create → e.output = some t → Tree.Written t.trees type → Answers e
      ("<" :: type ++
        ["as", ":", ":", "theus_core", ":", ":", "IntoBoundary", ">", ":", ":", "Abi"])

/-- The function of the support library that a call goes through. -/
def Route.through : Route → List String
  | create => [":", ":", "theus_core", ":", ":", "export", ":", ":", "create"]
  | direct => [":", ":", "theus_core", ":", ":", "IntoBoundary", ":", ":", "into_boundary"]
  | borrow => [":", ":", "theus_core", ":", ":", "export", ":", ":", "with_instance"]
  | destroy => [":", ":", "theus_core", ":", ":", "export", ":", ":", "destroy"]
  | consume => [":", ":", "theus_core", ":", ":", "export", ":", ":", "consume"]

/-- What the function of the support library is given: the call, and where an instance takes part
its type and its handle. -/
inductive Passed (self call : List String) : Route → List String → Prop where
  | create : Passed self call .create
      ([":", ":", "<"] ++ self ++ [">", "(", "|", "|"] ++ call ++ [")"])
  | direct : Passed self call .direct ("(" :: call ++ [")"])
  | held {r} : r.takesHandle = true → Passed self call r
      ([":", ":", "<"] ++ self ++
        [",", "_", ">", "(", "__theus_handle", ",", "|", "__theus_this", "|"] ++ call ++ [",", ")"])

/-- The text of an export: what it declares, what it answers, and the one call of its function. -/
inductive Spells (p : Plan) (e : Export) : List String → Prop where
  | intro {docs pieces params result self path args passed} :
    Tree.Written (e.docs.flatMap Attribute.trees) docs →
    List.Forall₂ Declares e.params pieces →
    Listed ((if e.route.takesHandle then [["__theus_handle", ":", "u32"]] else []) ++ pieces)
      params →
    Answers e result →
    Tree.Written p.self.trees self →
    Calls self e.method p.trait? path →
    Listed (e.arguments.map fun a => [a]) args →
    Passed self (path ++ "(" :: args ++ [")"]) e.route passed →
    -- the call goes through this function of the support library and through no other one
    (∀ r : Route, r.through <+: e.route.through ++ passed ↔ r = e.route) →
    Spells p e (docs ++ ["#", "[", "no_mangle", "]", "pub", "extern", "\"C\"", "fn", e.name, "("] ++
      params ++ [")", "-", ">"] ++ result ++ "\x7b" :: (e.route.through ++ passed) ++ ["\x7d"])

/-- A store for the instances of a type, of which every thread has its own. -/
inductive Stores (self : List String) : List String → Prop where
  | intro : Stores self
      (["impl", ":", ":", "theus_core", ":", ":", "Handled", "for"] ++ self ++
        ["\x7b", "fn", "store", "(", ")", "-", ">", "&", "'", "static",
          ":", ":", "std", ":", ":", "thread", ":", ":", "LocalKey", "<",
          ":", ":", "std", ":", ":", "cell", ":", ":", "RefCell", "<",
          ":", ":", "theus_core", ":", ":", "HandleStore", "<", "Self", ">", ">", ",", ">", "\x7b",
          ":", ":", "std", ":", ":", "thread_local", "!", "\x7b", "static", "STORE", ":",
          ":", ":", "std", ":", ":", "cell", ":", ":", "RefCell", "<",
          ":", ":", "theus_core", ":", ":", "HandleStore", "<"] ++ self ++
        [">", ">", "=", ":", ":", "std", ":", ":", "cell", ":", ":", "RefCell", ":", ":", "new", "(",
          ":", ":", "theus_core", ":", ":", "HandleStore", ":", ":", "new", "(", ")", ")", ";",
          "\x7d", "&", "STORE", "\x7d", "\x7d"])

theorem listed_paramTokens (e : Export) :
    ∃ pieces, List.Forall₂ Declares e.params pieces ∧
      Listed ((if e.route.takesHandle then [["__theus_handle", ":", "u32"]] else []) ++ pieces)
        (paramTokens e) := by
  refine ⟨e.params.map fun p => [p.name, ":"] ++ Tree.tokensOf p.type.trees, ?_, ?_⟩
  · rw [List.forall₂_map_right_iff, List.forall₂_same]
    exact fun p _ => .intro (Tree.written_tokensOf _)
  · have h := listed_commas (e.params.map fun p => [p.name, ":"] ++ Tree.tokensOf p.type.trees)
    unfold paramTokens
    cases e.route.takesHandle with
    | true => exact .cons h
    | false => exact h

/-- What a call is given: the instance if there is one, then the parameters. -/
def argumentTokens (e : Export) : List String :=
  (if e.route.takesHandle then ["__theus_this", ","] else []) ++
    commas (e.params.map fun p => [p.name])

theorem listed_argumentTokens (e : Export) :
    Listed (e.arguments.map fun a => [a]) (argumentTokens e) := by
  have hm : (e.params.map ScalarParam.name).map (fun a => [a]) =
      e.params.map fun p => [p.name] := List.map_map
  have h := listed_commas (e.params.map fun p => [p.name])
  unfold Export.arguments argumentTokens
  cases e.route.takesHandle with
  | true =>
    rw [if_pos rfl, if_pos rfl, List.map_append, hm]
    exact .cons h
  | false =>
    rw [if_neg Bool.false_ne_true, if_neg Bool.false_ne_true, List.map_append, hm]
    exact h

theorem calls_callee (p : Plan) (e : Export) :
    Calls (Tree.tokensOf p.self.trees) e.method p.trait? (callee p e) := by
  unfold callee inAngles
  cases p.trait? with
  | none =>
    have h : Calls (Tree.tokensOf p.self.trees) e.method none _ := .own
    simpa using h
  | some t =>
    have h : Calls (Tree.tokensOf p.self.trees) e.method (some t) _ :=
      .ofTrait (Tree.written_tokensOf t.trees)
    simpa using h

theorem answers_resultType (e : Export) : Answers e (resultType e) := by
  unfold resultType
  cases hr : e.route with
  | create => exact .handle hr
  | direct | borrow | destroy | consume =>
    have hn : e.route ≠ .create := by simp [hr]
    cases ho : e.output with
    | none => exact .nothing hn ho
    | some t => simpa [inAngles, rootPath] using Answers.value hn ho (Tree.written_tokensOf t.trees)

theorem through_prefix_iff {r r' : Route} {rest : List String} :
    r.through <+: r'.through ++ rest ↔ r = r' := by
  cases r <;> cases r' <;> simp [Route.through]

theorem through_eq_helper (r : Route) : r.through = r.helper := by
  cases r <;> rfl

/-- A body is one call of the function that its route leads through. -/
theorem bodyTokens_eq (p : Plan) (e : Export) :
    ∃ passed, bodyTokens p e = e.route.through ++ passed ∧
      Passed (Tree.tokensOf p.self.trees) (callee p e ++ "(" :: argumentTokens e ++ [")"])
        e.route passed := by
  unfold bodyTokens argumentTokens
  cases hr : e.route with
  | create =>
    refine ⟨_, ?_, .create⟩
    simp [through_eq_helper, Route.takesHandle, inAngles, symbols]
  | direct =>
    refine ⟨_, ?_, .direct⟩
    simp [through_eq_helper, Route.takesHandle]
  | borrow | destroy | consume =>
    refine ⟨_, ?_, .held rfl⟩
    simp [through_eq_helper, Route.takesHandle, inAngles]

theorem spells_exportTokens (p : Plan) (e : Export) : Spells p e (exportTokens p e) := by
  obtain ⟨pieces, hp, hl⟩ := listed_paramTokens e
  obtain ⟨passed, hb, hc⟩ := bodyTokens_eq p e
  have h : Spells p e _ := .intro (Tree.written_tokensOf _) hp hl (answers_resultType e)
    (Tree.written_tokensOf _) (calls_callee p e) (listed_argumentTokens e) hc
    fun _ => through_prefix_iff
  unfold exportTokens
  rw [hb]
  simpa [symbols] using h

theorem stores_storeTokens (self : List String) : Stores self (storeTokens self) := by
  have h : Stores self _ := .intro
  simpa [storeTokens, storeType, symbols, inAngles, rootPath] using h

/-! ## Accepted blocks -/

/-- What an accepted block is like, and the plan that it gets. -/
theorem of_exported {plan : Plan} (h : decideBlock b = .exported plan) :
    b.generics = none ∧ ∃ s, EndsIn b.self s ∧ blockObjections b s.name = [] ∧
      plan = ⟨b.self, b.trait?, (considered b).map (exportOf b s.name)⟩ := by
  cases hg : b.generics with
  | some span =>
    rw [decideBlock_generic hg] at h
    cases h
  | none =>
    refine ⟨rfl, ?_⟩
    cases hs : b.self.lastSegment? with
    | none =>
      rw [decideBlock_unnamed hg (lastSegment?_eq_none_iff.1 hs)] at h
      cases h
    | some s =>
      refine ⟨s, lastSegment?_eq_some_iff.1 hs, ?_⟩
      simp only [decideBlock, hg, hs] at h
      split at h
      · cases h
      · split at h
        · rename_i he
          cases h
          exact ⟨List.isEmpty_iff.1 he, rfl⟩
        · cases h

/-- The store among the tokens of a plan. -/
def Plan.store (p : Plan) : List String :=
  if p.ownsStore then storeTokens (Tree.tokensOf p.self.trees) else []

theorem Plan.tokens_eq (p : Plan) : p.tokens = p.store ++ p.exports.flatMap (exportTokens p) := rfl

theorem Plan.stores_store_iff (p : Plan) :
    Stores (Tree.tokensOf p.self.trees) p.store ↔ p.trait? = none := by
  unfold store ownsStore
  cases p.trait? with
  | none => exact iff_of_true (stores_storeTokens _) rfl
  | some t =>
    refine iff_of_false (fun hs => ?_) (nomatch ·)
    cases hs

theorem Plan.store_eq_nil_iff (p : Plan) : p.store = [] ↔ p.trait? ≠ none := by
  unfold store ownsStore
  cases p.trait? with
  | none =>
    refine iff_of_false (fun hn => ?_) (· rfl)
    have hs : Stores (Tree.tokensOf p.self.trees) [] := hn ▸ stores_storeTokens _
    cases hs
  | some t => exact iff_of_true rfl (nomatch ·)

theorem fits_of_exported {s : PathSegment} (ho : blockObjections b s.name = [])
    (hm : Considers b m) : Fits b s.name m :=
  fits_iff.2 fun cause hf => blockObjections_eq_nil_iff.1 ho cause (.function hm hf)

/-- What is added for a block that is accepted: a store exactly if the block has no trait, and one
export for each function that is considered, which calls it. -/
theorem one_export_per_function {item : List Tree} {plan : Plan}
    (h : answer [] item = .ok (.exported plan)) :
    ∃ b s self store, ∃ text : Export → List String, ImplBlock.ofTrees item = .ok b ∧
      EndsIn b.self s ∧ Tree.Written b.self.trees self ∧
      plan.self = b.self ∧ plan.trait? = b.trait? ∧
      plan.tokens = store ++ plan.exports.flatMap text ∧
      (Stores self store ↔ b.trait? = none) ∧ (store = [] ↔ b.trait? ≠ none) ∧
      Covers b (fun m e => Wraps b s.name m e ∧ Spells plan e (text e)) b.items plan.exports := by
  have hb : ∃ b, ImplBlock.ofTrees item = .ok b ∧ decideBlock b = .exported plan := by
    rw [answer] at h
    cases hi : ImplBlock.ofTrees item with
    | error e =>
      rw [hi] at h
      cases h
    | ok b =>
      rw [hi] at h
      exact ⟨b, rfl, Except.ok.inj h⟩
  obtain ⟨b, hi, hd⟩ := hb
  obtain ⟨-, s, hs, ho, hp⟩ := of_exported hd
  have hself : plan.self = b.self := by rw [hp]
  have htrait : plan.trait? = b.trait? := by rw [hp]
  have hexports : plan.exports = (considered b).map (exportOf b s.name) := by rw [hp]
  refine ⟨b, s, _, plan.store, exportTokens plan, hi, hs, Tree.written_tokensOf _, hself, htrait,
    plan.tokens_eq, ?_, ?_, ?_⟩
  · rw [← hself, ← htrait]
    exact plan.stores_store_iff
  · rw [← htrait]
    exact plan.store_eq_nil_iff
  · rw [hexports]
    refine covers_considered fun m hm => ?_
    have hr := receiverFirst_of_ofTrees hi hm.1
    exact ⟨wraps_exportOf (fits_of_exported ho hm) hr, spells_exportTokens plan _⟩

/-- In a block for a trait, `create` and `destroy` are functions like all others. -/
theorem create_of_trait_borrows :
    ∃ item plan,
      treesOf? "impl Sides for Cube \x7b fn create(&self, n: u8) \x7b \x7d
        fn destroy(self) \x7b \x7d \x7d" = some item ∧
      answer [] item = .ok (.exported plan) ∧
      (∃ text : Export → List String, plan.tokens = plan.exports.flatMap text ∧
        ∀ e ∈ plan.exports, Spells plan e (text e)) ∧
      plan.exports.map Export.name = ["cube_sides_create", "cube_sides_destroy"] ∧
      plan.exports.map Export.route = [.borrow, .consume] := by
  have hk : (treesOf? "impl Sides for Cube \x7b fn create(&self, n: u8) \x7b \x7d
        fn destroy(self) \x7b \x7d \x7d").any (fun item =>
      match answer [] item with
      | .ok (.exported plan) =>
        plan.trait?.isSome &&
          plan.exports.map Export.name == ["cube_sides_create", "cube_sides_destroy"] &&
          plan.exports.map Export.route == [.borrow, .consume]
      | _ => false) = true := by decide +kernel
  obtain ⟨item, hi, hk⟩ := (Option.any_eq_true _ _).1 hk
  split at hk
  · rename_i plan hp
    simp only [Bool.and_eq_true, beq_iff_eq] at hk
    obtain ⟨⟨hsome, hnames⟩, hroutes⟩ := hk
    obtain ⟨b, s, self, store, text, -, -, -, -, ht, htokens, -, hempty, hcovers⟩ :=
      one_export_per_function hp
    have hb : b.trait? ≠ none := by
      rw [← ht, ← Option.isSome_iff_ne_none]
      exact hsome
    rw [hempty.2 hb, List.nil_append] at htokens
    refine ⟨item, plan, hi, hp, ⟨text, htokens, fun e he => ?_⟩, hnames, hroutes⟩
    obtain ⟨m, -, hspells⟩ := hcovers.exists_method e he
    exact hspells
  · cases hk

end Binding

end HandleBridge
