import HandleBridge.Source.Attribute

/-
  Types, and what they are made of: paths with arguments, bounds, parameters of a generic item.

  A type keeps its trees, so that it can be written again, and of its structure what decides
  whether it may be exported: whether it is a path, and of which segments. It is written as it was,
  but in a list of arguments lifetimes come first, and a sign that nothing depends on is left out:
  the colon before no bounds, and the double colon before arguments in parentheses. Types contain
  each other, so the parsers of the parts take those of the level below as an argument, and
  `Parser.level` ties the knot. Each level takes a token or enters a group before it asks for the
  next one, so there are never more levels than tokens.
-/

namespace HandleBridge.Source

/-- A segment of a path, and how many arguments it has, if it has an argument list. -/
structure PathSegment where
  name : String
  arguments : Option Nat
deriving DecidableEq

namespace TypeExpr

/-- What a type is, as far as it matters. -/
inductive Shape where
  /-- A path that begins with no other type; `absolute` if it begins with `::`. -/
  | path (absolute : Bool) (front : List PathSegment) (last : PathSegment)
  /-- Bounds without a word in front of them, perhaps just one. -/
  | bounds (single : Bool)
  | other
deriving DecidableEq

end TypeExpr

/-- A type as it is written. -/
structure TypeExpr where
  trees : List Tree
  shape : TypeExpr.Shape

namespace TypeExpr

def span (t : TypeExpr) : Span := Tree.spanOf t.trees

/-- The last segment of a type that is a path. -/
def lastSegment? (t : TypeExpr) : Option PathSegment :=
  match t.shape with
  | .path _ _ last => some last
  | _ => none

/-- Whether a type is a single name, perhaps with arguments. -/
def isSimple (t : TypeExpr) : Bool :=
  match t.shape with
  | .path false [] _ => true
  | _ => false

end TypeExpr

namespace Parser

/-! Lookahead for the parts of types. -/

/-- Words that may begin a path although they are keywords. -/
def pathKeywordAhead (ts : List Tree) : Bool :=
  ["super", "self", "Self", "crate"].any fun w => Ahead.word w ts

/-- Whether a path begins here. -/
def pathAhead (ts : List Tree) : Bool :=
  Ahead.name ts || pathKeywordAhead ts || Ahead.punct "::" ts

/-- Whether arguments in parentheses follow a path, directly or behind `::`. -/
def callAhead (ts : List Tree) : Bool :=
  Ahead.group .parenthesis ts ||
    match Ahead.afterPunct [':', ':'] ts with
    | some rest => Ahead.group .parenthesis rest
    | none => false

/-- Whether another segment of a path follows. -/
def segmentAhead (ts : List Tree) : Bool :=
  match Ahead.afterPunct [':', ':'] ts with
  | some rest => !Ahead.group .parenthesis rest
  | none => false

/-- Whether the arguments of a path segment follow directly. -/
def argumentsAhead (ts : List Tree) : Bool :=
  Ahead.punct "<" ts && !Ahead.punct "<=" ts && !Ahead.punct "<<=" ts

/-- Whether the arguments of a path segment follow behind `::`. -/
def turbofishAhead (ts : List Tree) : Bool :=
  match Ahead.afterPunct [':', ':'] ts with
  | some rest => Ahead.punct "<" rest
  | none => false

/-- Whether a bound is marked to hold in a constant if its item is used in one. -/
def conditionAhead : List Tree → Bool
  | .group .bracket [.word w _] _ :: _ => w == "const"
  | _ => false

/-- Whether a bound goes on behind a plus sign. -/
def boundAhead (ts : List Tree) : Bool :=
  Ahead.anyWord ts || Ahead.punct "::" ts || Ahead.punct "?" ts || Ahead.lifetime ts
    || Ahead.group .parenthesis ts || conditionAhead ts

/-- Whether parentheses hold a bound that is not to be taken for granted. -/
def relaxedAhead : List Tree → Bool
  | .group .parenthesis content _ :: _ => Ahead.punct "?" content
  | _ => false

/-- Whether a type comes that only the language itself provides. -/
def builtinAhead (ts : List Tree) : Bool :=
  Ahead.word "builtin" ts && Ahead.punct "#" (ts.drop 1)

/-- Whether a path is the name of a template that is called. -/
def templateAhead (ts : List Tree) : Bool := Ahead.punct "!" ts && !Ahead.punct "!=" ts

def blockAhead (ts : List Tree) : Bool := Ahead.group .brace ts

def constantAhead (ts : List Tree) : Bool := Ahead.constant ts || blockAhead ts

/-- A lifetime that is not the first of several bounds. -/
def lifetimeArgumentAhead (ts : List Tree) : Bool :=
  Ahead.lifetime ts && !Ahead.punct "+" (ts.drop 2)

def colonAhead (ts : List Tree) : Bool := Ahead.punct ":" ts && !Ahead.punct "::" ts

/-- Where the bounds of a parameter end. -/
def parameterEnds (ts : List Tree) : Bool :=
  Ahead.punct "," ts || Ahead.punct ">" ts || Ahead.punct "=" ts

/-- Where the conditions of a generic item end. -/
def conditionEnds (ts : List Tree) : Bool :=
  ts.isEmpty || blockAhead ts || Ahead.punct "," ts || Ahead.punct ";" ts || colonAhead ts
    || Ahead.punct "=" ts

/-! Parts that hold no types. -/

/-- Runs a parser whose trees are not written again. -/
def unwritten {α : Type} (p : Parser α) : Parser α := writing do return (← p, [])

/-- The bounds of a parameter, if there are any. A colon without bounds is not written. -/
def bounds? {α : Type} (bound : Parser α) : Parser Unit := writing do
  let (listed, trees) ← taking do
    if ← punct? ":" then plusList parameterEnds bound else return []
  return ((), if listed.isEmpty then [] else trees)

/-- A lifetime that is declared, with those that it outlives. -/
def lifetimeParameter : Parser Unit := do
  lifetime
  bounds? lifetime

/-- The entries of a list, each with the comma behind it, in the order in which they are written:
those that are marked come first, with a comma before the others. -/
def markedFirst (entries : List (Bool × List Tree)) : List Tree :=
  let front := (entries.filter fun e => e.1).flatMap Prod.snd
  let others := (entries.filter fun e => !e.1).flatMap Prod.snd
  let closed := Ahead.punct "," (front.drop (front.length - 1))
  if front.isEmpty || others.isEmpty || closed then front ++ others
  else front ++ .punct ',' false .nowhere :: others

/-- A list between angle brackets, of which the number of entries is answered. Lifetimes are written
first; the test tells them from other entries. -/
def lifetimesFirst (isLifetime : List Tree → Bool) (entry : Parser Unit) : Parser Nat := do
  punct "<"
  let count ← writing do
    let entries ← manyUpTo (Ahead.punct ">") (taking do
      let marked ← sees isLifetime
      entry
      unless ← sees (Ahead.punct ">") do punct ","
      return marked) (← get).rest.length
    return (entries.length, markedFirst entries)
  punct ">"
  return count

/-- A literal, perhaps behind a minus sign, or a truth value. -/
def constant : Parser Unit := do
  if ← sees fun ts => Ahead.word "true" ts || Ahead.word "false" ts then skip 1
  else
    let _ ← punct? "-"
    literal

/-- A constant among the arguments of a path or as a default. -/
def constantArgument : Parser Unit := do
  if ← sees Ahead.constant then constant
  else if ← sees blockAhead then skip 1
  else
    let _ ← name

/-- The calling convention of a function, if there is one. -/
def convention? : Parser Unit := do
  if ← word? "extern" then
    match (← get).rest with
    | .literal _ _ :: _ => skip 1
    | _ => return

/-- A type that only the language itself provides. -/
def builtinType : Parser Unit := do
  word "builtin"
  punct "#"
  let _ ← name
  let _ ← groupRow .parenthesis

/-- The parsers for what stands inside something else. -/
structure Level where
  /-- The argument says whether bounds may be joined by plus signs. -/
  type : Bool → Parser TypeExpr
  /-- Answers whether the bound is a trait. -/
  bound : Parser Bool

namespace Level

variable (inner : Level)

/-! Paths. -/

/-- An argument of a path segment: a lifetime, a constant, a type, or an associated type or
constant that is given or bounded. -/
def pathArgument : Parser Unit := do
  if ← sees lifetimeArgumentAhead then lifetime
  else if ← sees constantAhead then constantArgument
  else
    let t ← inner.type true
    if t.isSimple then
      if ← punct? "=" then
        if ← sees constantAhead then constantArgument
        else
          let _ ← inner.type true
      else if ← punct? ":" then
        let _ ← plusList parameterEnds inner.bound

/-- The arguments of a path segment, of which the number is answered. -/
def pathArguments : Parser Nat := lifetimesFirst lifetimeArgumentAhead inner.pathArgument

/-- A segment of a path. In a type its arguments may follow it directly; where angle brackets
may also compare values, `::` must stand before them. -/
def pathSegment (direct : Bool) : Parser PathSegment := do
  if ← sees fun ts => ["super", "self", "crate", "try"].any fun w => Ahead.word w ts then
    return ⟨← anyWord, none⟩
  let text ← if ← sees (Ahead.word "Self") then anyWord else name
  if direct && (← sees argumentsAhead) then return ⟨text, some (← inner.pathArguments)⟩
  if ← sees turbofishAhead then
    punct "::"
    return ⟨text, some (← inner.pathArguments)⟩
  return ⟨text, none⟩

/-- The further segments of a path, at most so many. -/
def furtherSegments (direct : Bool) : Nat → Parser (List PathSegment)
  | 0 => return []
  | n + 1 => do
    if ← sees segmentAhead then
      punct "::"
      let s ← inner.pathSegment direct
      return s :: (← furtherSegments direct n)
    else return []

/-- A path that begins with no other type: whether it begins with `::`, its segments but the last
one, and the last one. -/
def path (direct : Bool) : Parser (Bool × List PathSegment × PathSegment) := do
  let absolute ← punct? "::"
  let first ← inner.pathSegment direct
  let more ← inner.furtherSegments direct (← get).rest.length
  return (absolute, (first :: more).dropLast, more.getLastD first)

/-- A path that begins with a type between angle brackets. -/
def qualifiedPath (direct : Bool) : Parser Unit := do
  punct "<"
  let _ ← inner.type true
  if ← word? "as" then
    let _ ← inner.path true
  punct ">"
  punct "::"
  let _ ← inner.pathSegment direct
  let _ ← inner.furtherSegments direct (← get).rest.length

/-! Parameters. -/

/-- A parameter of a generic item. -/
def parameter : Parser Unit := do
  let _ ← Attribute.outers
  if ← sees Ahead.lifetime then lifetimeParameter
  else if ← sees fun ts => Ahead.name ts || Ahead.word "_" ts then
    skip 1
    bounds? inner.bound
    if ← punct? "=" then
      let _ ← inner.type true
  else if ← word? "const" then
    let _ ← name
    punct ":"
    let _ ← inner.type true
    if ← punct? "=" then constantArgument
  else expected [.kind "lifetime", .kind "identifier", .token "const"]

/-- Parameters between angle brackets, of which the number is answered. -/
def parameters : Parser Nat := do
  punct "<"
  let items ← commaList (Ahead.punct ">") inner.parameter
  punct ">"
  return items.length

/-- `for` and the parameters that it declares, if they are there. -/
def binder? : Parser Bool := do
  if ← word? "for" then
    let _ ← inner.parameters
    return true
  else return false

/-! Bounds. -/

/-- The type behind an arrow, if there is an arrow. -/
def output? (plus : Bool) : Parser (Option TypeExpr) := do
  if ← punct? "->" then some <$> inner.type plus else return none

def traitBound : Parser Unit := do
  let declared ← inner.binder?
  if ← punct? "~" then word "const"
  else if ← sees conditionAhead then skip 1
  else
    let _ ← word? "const"
  if ← punct? "?" then
    unless declared do
      let _ ← inner.binder?
  let (_, _, last) ← inner.path true
  if last.arguments.isNone && (← sees callAhead) then
    let _ ← unwritten (punct? "::")
    let _ ← inGroup .parenthesis (commaList List.isEmpty (inner.type true))
    let _ ← inner.output? false

/-- A lifetime, a list of captured names or a trait. Answers whether it is a trait. -/
def anyBound : Parser Bool := do
  if ← sees Ahead.lifetime then
    lifetime
    return false
  if ← word? "use" then
    let _ ← lifetimesFirst Ahead.lifetime do
      if ← sees Ahead.lifetime then lifetime
      else
        let _ ← anyWord
    return false
  if ← sees (Ahead.group .parenthesis) then inGroup .parenthesis inner.traitBound
  else inner.traitBound
  return true

/-- At least one bound; if `plus`, perhaps more of them. Answers which of them are traits. -/
def bounds (plus : Bool) : Parser (List Bool) := do
  let first ← inner.anyBound
  if plus then
    if ← punct? "+" then
      return first :: (← plusList (fun ts => !boundAhead ts) inner.anyBound)
  return [first]

/-- Bounds of which one must be a trait, behind the word that announces them, if there is one. -/
def boundsType (lead : Parser Unit) (plus : Bool) (otherwise : ParseFault.Cause) :
    Parser TypeExpr.Shape := do
  let (traits, trees) ← taking (lead *> inner.bounds plus)
  if traits.any id then return .other else throw ⟨otherwise, Tree.spanOf trees⟩

/-- A type of which only lifetimes and traits are known. -/
def objectType (plus : Bool) : Parser TypeExpr.Shape :=
  inner.boundsType (do
    if ← word? "dyn" then
      let _ ← punct? "*") plus .objectWithoutTrait

/-! Types. -/

/-- A parameter in the type of a function, perhaps with a name. -/
def functionTypeParameter : Parser Unit := do
  let _ ← Attribute.outers
  if ← punct? "..." then return
  if ← sees fun ts => Ahead.word "mut" ts && Ahead.word "self" (ts.drop 1) then skip 1
  if ← sees fun ts => Ahead.anyWord ts && colonAhead (ts.drop 1) then skip 2
  if ← punct? "..." then return
  let _ ← inner.type true

def functionType : Parser Unit := do
  let _ ← word? "unsafe"
  convention?
  word "fn"
  let _ ← inGroup .parenthesis (commaList List.isEmpty inner.functionTypeParameter)
  let _ ← inner.output? false

/-- What stands between the parentheses of a type, unless it is a tuple. -/
def insideParentheses : Parser (Option TypeExpr.Shape) := do
  if ← atEnd then return none
  if ← sees Ahead.lifetime then
    let _ ← inner.objectType true
    return some .other
  if ← sees (Ahead.punct "?") then
    inner.traitBound
    return some (.bounds true)
  let first ← inner.type true
  if ← punct? "," then
    let _ ← commaList List.isEmpty (inner.type true)
    return none
  return some first.shape

/-- A type in parentheses, a tuple, or the first of several bounds. Behind a relaxed bound more of
them may follow everywhere. -/
def parenthesizedType (plus : Bool) : Parser TypeExpr.Shape := do
  let relaxed ← sees relaxedAhead
  match ← inGroup .parenthesis inner.insideParentheses with
  | some (.path _ _ _) | some (.bounds true) =>
    if (plus || relaxed) && (← sees (Ahead.punct "+")) then
      punct "+"
      let _ ← plusList (fun _ => false) inner.anyBound
      return .bounds false
    return if relaxed then .bounds true else .other
  | _ => return .other

/-- A type that begins with a path: the path itself, a call of a template, or bounds. -/
def pathType (declared plus : Bool) : Parser TypeExpr.Shape := do
  if ← sees (Ahead.punct "<") then
    inner.qualifiedPath true
    return .other
  let (absolute, front, last) ← inner.path true
  let plain := (last :: front).all fun s => s.arguments.isNone
  if plain && (← sees templateAhead) then
    punct "!"
    let _ ← anyGroup
    return .other
  if plus then
    if ← punct? "+" then
      let _ ← plusList (fun ts => !boundAhead ts) inner.anyBound
      return .bounds false
  return if declared then .bounds true else .path absolute front last

/-- A row of values of one type. -/
def arrayType : Parser Unit := inGroup .bracket do
  let _ ← inner.type true
  if ← punct? ";" then everything

/-- What may begin a type. -/
def typeBegins : List Wanted :=
  [.token "for", .kind "parentheses", .token "fn", .token "unsafe", .token "extern",
    .kind "identifier", .token "::", .token "<", .token "dyn", .kind "square brackets",
    .token "*", .token "&", .token "!", .token "impl", .token "_", .kind "lifetime"]

/-- What may begin a type behind declared lifetimes. -/
def declaredTypeBegins : List Wanted :=
  [.kind "identifier", .token "fn", .token "unsafe", .token "extern", .token "super",
    .token "self", .token "Self", .token "crate"]

def functionAhead (ts : List Tree) : Bool :=
  ["fn", "unsafe", "extern"].any fun w => Ahead.word w ts

/-- The structure of any type. -/
def typeShape (plus : Bool) : Parser TypeExpr.Shape := do
  let declared ← inner.binder?
  if declared then
    unless ← sees fun ts => Ahead.name ts || functionAhead ts || pathKeywordAhead ts do
      expected declaredTypeBegins
  if ← sees (Ahead.group .parenthesis) then inner.parenthesizedType plus
  else if ← sees functionAhead then
    inner.functionType
    return .other
  else if ← sees builtinAhead then
    builtinType
    return .other
  else if ← sees fun ts => pathAhead ts || Ahead.punct "<" ts then inner.pathType declared plus
  else if ← sees (Ahead.word "dyn") then inner.objectType plus
  else if ← sees (Ahead.group .bracket) then
    inner.arrayType
    return .other
  else if ← punct? "*" then
    if ← sees fun ts => Ahead.word "const" ts || Ahead.word "mut" ts then skip 1
    else expected [.token "const", .token "mut"]
    let _ ← inner.type false
    return .other
  else if ← punct? "&" then
    let _ ← lifetime?
    let _ ← word? "mut"
    let _ ← inner.type false
    return .other
  else if ← punct? "!" then return .other
  else if ← sees (Ahead.word "impl") then
    inner.boundsType (word "impl") plus .hiddenWithoutTrait
  else if ← word? "_" then return .other
  else if ← sees Ahead.lifetime then inner.objectType true
  else expected typeBegins

def anyType (plus : Bool) : Parser TypeExpr := do
  let (shape, trees) ← taking (inner.typeShape plus)
  return ⟨trees, shape⟩

end Level

/-- The parsers that go so many levels deep. -/
def level : Nat → Level
  | 0 => ⟨fun _ => failHere fun _ => .unexpectedToken, failHere fun _ => .unexpectedToken⟩
  | n + 1 =>
    let below := level n
    ⟨below.anyType, below.anyBound⟩

/-- The parsers that go as deep as what is left can ask for. -/
def deepEnough : Parser Level := return level (Tree.weightOf (← get).rest + 1)

/-- A type. -/
def type : Parser TypeExpr := do (← deepEnough).type true

/-- The type behind an arrow, if there is an arrow. -/
def output? : Parser (Option TypeExpr) := do (← deepEnough).output? true

/-! Generic items. -/

/-- The parameters of a generic item, of which the number is answered. -/
def genericParameters : Parser Nat := do (← deepEnough).parameters

/-- A condition on the parameters of a generic item. -/
def condition : Parser Unit := do
  let deep ← deepEnough
  if ← sees fun ts => Ahead.lifetime ts && Ahead.punct ":" (ts.drop 2) then
    lifetime
    punct ":"
    let _ ← plusList conditionEnds lifetime
  else
    let _ ← deep.binder?
    let _ ← type
    punct ":"
    let _ ← plusList conditionEnds deep.bound

/-- The conditions of a generic item, if there are any; how many is answered. -/
def conditions? : Parser Nat := do
  if ← word? "where" then
    let items ← listWhile "," conditionEnds condition ((← get).rest.length + 1)
    return items.length
  else return 0

end Parser

end HandleBridge.Source
