import HandleBridge.Source.Pattern

/-
  Implementation blocks: the functions of a type, or those of a trait for a type.

  Of a function everything is kept that decides whether and how it can be exported. Its body is
  not looked into, apart from the attributes at its front. Items that are no functions with a
  body are kept as such, without their content.
-/

namespace HandleBridge.Source

/-- How a function takes the instance that it belongs to. -/
inductive Receiver where
  | borrowed
  | owned
  /-- With its type spelled out. -/
  | typed
deriving DecidableEq

/-- A parameter of a function. -/
inductive Param where
  /-- The instance itself; `self` is where its word stands. -/
  | receiver (kind : Receiver) (self span : Span)
  | named (name : String) (type : TypeExpr)
  /-- A value that is taken apart; the span is that of the pattern. -/
  | pattern (span : Span)

/-- Who may call a function. -/
inductive Visibility where
  | inherited
  | restricted
  | everyone
deriving DecidableEq

/-- The type of a result, and where it stands with its arrow. -/
structure Output where
  type : TypeExpr
  span : Span

/-- What is known of a function without its body. -/
structure Signature where
  /-- From the first qualifier to the last token that is not part of the body. -/
  span : Span
  name : String
  /-- Where its parameter list between angle brackets stands, unless that is empty. -/
  generics : Option Span
  /-- Where it is said to be `async`. -/
  async : Option Span
  /-- Where it is said to be `unsafe`. -/
  unchecked : Option Span
  params : List Param
  output : Option Output

/-- A function with a body. -/
structure Method where
  attributes : List Attribute
  visibility : Visibility
  signature : Signature

inductive Item where
  | method (m : Method)
  /-- A constant, a type, a call of a template or a function without a body. -/
  | other

/-- A path that names a trait. -/
structure TraitPath where
  trees : List Tree
  /-- The name of its last segment. -/
  name : String

/-- An implementation block. -/
structure ImplBlock where
  /-- Where its parameter list between angle brackets stands, unless that is empty. -/
  generics : Option Span
  /-- The trait, if it is one of a trait. -/
  trait? : Option TraitPath
  self : TypeExpr
  items : List Item

namespace Parser

/-! Functions. -/

/-- A receiver, and where its word stands. What begins with it may still be a path. -/
def receiver : Parser (Receiver × Span) := do
  let borrowed ← punct? "&"
  if borrowed then
    let _ ← lifetime?
  let _ ← word? "mut"
  let (_, self) ← taking (word "self")
  let typed ← if borrowed then pure false else punct? ":"
  if typed then
    let _ ← type
  if ← sees (Ahead.punct "::") then failHere fun _ => .unexpectedToken
  return (if borrowed then .borrowed else if typed then .typed else .owned, Tree.spanOf self)

/-- A parameter that is no receiver; nothing if it stands for any number of them. A type with
arguments may do without a name. -/
def typedParam : Parser (Option Param) := do
  let rest := (← get).rest
  if Ahead.name rest && Ahead.punct "<" (rest.drop 1) then
    let _ ← type
    return some (.pattern (Tree.spanOf (rest.take 1)))
  let (given, trees) ← taking pattern
  punct ":"
  if ← punct? "..." then return none
  let t ← type
  return some <| match given with
    | some n => .named n t
    | none => .pattern (Tree.spanOf trees)

/-- A parameter; nothing if it stands for any number of them. -/
def param : Parser (Option Param) := do
  let (_, attributes) ← taking Attribute.outers
  if ← punct? "..." then return none
  let taken ← orElse (some <$> taking receiver) (return none)
  match taken with
  | some ((kind, self), trees) =>
    return some (.receiver kind self (Tree.spanOf (attributes ++ trees)))
  | none => typedParam

/-- The receiver may only be the first parameter. -/
def checkReceiver (before : List Param) : Param → Parser Unit
  | .receiver _ self _ =>
    match before with
    | [] => return
    | .receiver _ _ _ :: _ => throw ⟨.secondReceiver, self⟩
    | _ => throw ⟨.misplacedReceiver, self⟩
  | _ => return

/-- The parameters of a function behind those given, at most so many. -/
def params (before : List Param) : Nat → Parser (List Param)
  | 0 => return before
  | n + 1 => do
    if ← atEnd then return before
    match ← param with
    | none =>
      unless ← atEnd do punct ","
      return before
    | some p =>
      checkReceiver before p
      unless ← atEnd do punct ","
      params (before ++ [p]) n

/-- The parameters between angle brackets, if there are any: where they stand. -/
def generics? : Parser (Option Span) := do
  if ← sees (Ahead.punct "<") then
    let (count, trees) ← taking genericParameters
    return if count = 0 then none else some (Tree.spanOf trees)
  else return none

def signature : Parser Signature := do
  let (s, trees) ← taking do
    let _ ← word? "const"
    let async ← wordSpan? "async"
    let unchecked ← wordSpan? "unsafe"
    convention?
    word "fn"
    let name ← name
    let generics ← generics?
    let params ← inGroup .parenthesis do params [] ((← get).rest.length + 1)
    let (output, outputTrees) ← taking output?
    let output := output.map fun t => (⟨t, Tree.spanOf outputTrees⟩ : Output)
    return (⟨.nowhere, name, generics, async, unchecked, params, output⟩ : Signature)
  let (count, conditions) ← taking conditions?
  return { s with span := Tree.spanOf (if count = 0 then trees else trees ++ conditions) }

/-! Items. -/

def visibility : Parser Visibility := do
  if ← word? "pub" then
    match (← get).rest with
    | .group .parenthesis [.word w _] _ :: _ =>
      if ["crate", "self", "super"].contains w then
        skip 1
        return .restricted
      else return .everyone
    | .group .parenthesis (.word "in" _ :: _) _ :: _ =>
      skip 1
      return .restricted
    | _ => return .everyone
  else return .inherited

/-- Whether a function begins here: its qualifiers in their order, then `fn`. -/
def signatureAhead (ts : List Tree) : Bool :=
  let past := fun (w : String) (ts : List Tree) => if Ahead.word w ts then ts.drop 1 else ts
  let rest := past "unsafe" (past "async" (past "const" ts))
  let rest :=
    match rest with
    | .word "extern" _ :: .literal _ _ :: rest => rest
    | .word "extern" _ :: rest => rest
    | _ => rest
  Ahead.word "fn" rest

/-- A function, behind its attributes and visibility. One without a body is not kept. -/
def method (attributes : List Attribute) (visibility : Visibility) : Parser Item := do
  let s ← signature
  if ← punct? ";" then return .other
  let body ← groupRow .brace
  let (inner, _) ← Attribute.inners.run body
  return .method ⟨attributes ++ inner, visibility, s⟩

/-- Skips what is left of an item that ends at a semicolon. -/
def throughSemicolon : Parser Unit := do
  skipUpTo (Ahead.punct ";")
  punct ";"

/-- A call of a template: a path, an exclamation mark and a group. -/
def templateCall : Parser Unit := do
  let _ ← punct? "::"
  let _ ← listWhile "::" (fun _ => false)
    (do if ← sees pathKeywordAhead then anyWord else name) (← get).rest.length
  punct "!"
  let d ← anyGroup
  unless d = .brace do punct ";"

/-- What may begin an item, as far as it is not already fixed by what was read. -/
def itemBegins (visibility : Visibility) (isDefault : Bool) : List Wanted :=
  (if isDefault then [] else [.token "default"]) ++ [.token "fn", .token "const", .token "type"]
    ++ if visibility = .inherited && !isDefault then
      [.kind "identifier", .token "self", .token "super", .token "crate", .token "::"]
    else []

def item : Parser Item := do
  let attributes ← Attribute.outers
  let visibility ← visibility
  let isDefault ← sees fun ts => Ahead.word "default" ts && !Ahead.punct "!" (ts.drop 1)
  if isDefault then skip 1
  if ← sees signatureAhead then method attributes visibility
  else if ← sees fun ts => Ahead.word "const" ts || Ahead.word "type" ts then
    throughSemicolon
    return .other
  else if visibility = .inherited && !isDefault && (← sees pathAhead) then
    templateCall
    return .other
  else expected (itemBegins visibility isDefault)

/-! Blocks. -/

/-- Whether an angle bracket opens parameters of the block, not a path that begins with a type. -/
def blockGenericsAhead (ts : List Tree) : Bool :=
  let rest := ts.drop 1
  let next := rest.drop (if Ahead.lifetime rest then 2 else 1)
  Ahead.punct "<" ts && (Ahead.punct ">" rest || Ahead.punct "#" rest || Ahead.word "const" rest
    || ((Ahead.lifetime rest || Ahead.name rest)
      && (colonAhead next || [",", ">", "="].any fun p => Ahead.punct p next)))

/-- Whether an exclamation mark says that a trait is not implemented. -/
def negationAhead (ts : List Tree) : Bool :=
  Ahead.punct "!" ts && !Ahead.group .brace (ts.drop 1)

/-- What is implemented for what. Without a trait, a negated type is no path. -/
def header : Parser (Option TraitPath × TypeExpr) := do
  let ((negated, first), trees) ← taking do
    let negated ← sees negationAhead
    if negated then skip 1
    return (negated, ← type)
  if ← word? "for" then
    match first.lastSegment? with
    | some last => return (some ⟨first.trees, last.name⟩, ← type)
    | none => throw ⟨.expectedTraitPath, first.span⟩
  else return (none, if negated then ⟨trees, .other⟩ else first)

def implBlock : Parser ImplBlock := do
  let _ ← Attribute.outers
  let _ ← word? "default"
  let _ ← word? "unsafe"
  word "impl"
  let generics ← if ← sees blockGenericsAhead then generics? else pure none
  let (trait?, self) ← header
  let _ ← conditions?
  let items ← inGroup .brace do
    let _ ← Attribute.inners
    manyUpTo List.isEmpty item (← get).rest.length
  return ⟨generics, trait?, self, items⟩

end Parser

/-- The implementation block that a text consists of. -/
def ImplBlock.ofTrees (trees : List Tree) : Except ParseFault ImplBlock :=
  Parser.implBlock.runOn (.whole trees)

end HandleBridge.Source
