import HandleBridge.Source.ParseFault

/-
  Parsers on a row of trees. A parser takes trees off the front of the row or answers why they
  do not fit. Looking ahead is done on the row itself and takes nothing. What is taken is kept in
  the form in which it is written again, which is nearly always the form that it had.

  A multiple-character punctuation is a run of punctuation trees of which all but the last are
  joint; the last one may be joint with what comes next, so `>` is seen at the front of `>>`.
-/

namespace HandleBridge.Source

/-- The rest of a row, where the row ends, and what was taken off its front, last tree first. -/
structure Row where
  rest : List Tree
  stop : Span
  written : List Tree

/-- A whole text as a row. Its end has no place of its own. -/
def Row.whole (trees : List Tree) : Row := ⟨trees, .nowhere, []⟩

/-- The row behind so many trees. -/
def Row.advance (n : Nat) (row : Row) : Row :=
  { row with rest := row.rest.drop n, written := (row.rest.take n).reverse ++ row.written }

/-- The row with the group that was just taken written with another content. -/
def Row.refill (content : List Tree) (row : Row) : Row :=
  match row.written with
  | .group d _ s :: before => { row with written := .group d content s :: before }
  | _ => row

abbrev Parser := StateT Row (Except ParseFault)

/-- Words that name nothing. -/
def keywords : List String :=
  ["_", "abstract", "as", "async", "await", "become", "box", "break", "const", "continue",
    "crate", "do", "dyn", "else", "enum", "extern", "false", "final", "fn", "for", "if", "impl",
    "in", "let", "loop", "macro", "match", "mod", "move", "mut", "override", "priv", "pub", "ref",
    "return", "Self", "self", "static", "struct", "super", "trait", "true", "try", "type",
    "typeof", "unsafe", "unsized", "use", "virtual", "where", "while", "yield"]

/-! Looking ahead. -/

namespace Ahead

def word (text : String) : List Tree → Bool
  | .word w _ :: _ => w == text
  | _ => false

def anyWord : List Tree → Bool
  | .word _ _ :: _ => true
  | _ => false

/-- A word that is no keyword. -/
def name : List Tree → Bool
  | .word w _ :: _ => !keywords.contains w
  | _ => false

/-- What is left behind a run of punctuation. -/
def afterPunct : List Char → List Tree → Option (List Tree)
  | [], ts => some ts
  | c :: cs, .punct c' joint _ :: ts =>
    if c = c' && (joint || cs.isEmpty) then afterPunct cs ts else none
  | _ :: _, _ => none

def punct (text : String) (ts : List Tree) : Bool := (afterPunct text.toList ts).isSome

def group (d : Delimiter) : List Tree → Bool
  | .group d' _ _ :: _ => d == d'
  | _ => false

def lifetime : List Tree → Bool
  | .punct '\'' _ _ :: .word _ _ :: _ => true
  | _ => false

/-- A literal, a truth value, or a literal behind a minus sign. -/
def constant : List Tree → Bool
  | .literal _ _ :: _ => true
  | .word w _ :: _ => w == "true" || w == "false"
  | .punct '-' _ _ :: .literal _ _ :: _ => true
  | _ => false

end Ahead

/-! Taking trees. -/

namespace Parser

/-- Looks ahead. -/
def sees (p : List Tree → Bool) : Parser Bool := return p (← get).rest

def atEnd : Parser Bool := sees List.isEmpty

/-- Fails at the front of the row. -/
def failHere {α : Type} (cause : Bool → ParseFault.Cause) : Parser α := do
  let row ← get
  match row.rest with
  | [] => throw ⟨cause true, row.stop⟩
  | t :: _ => throw ⟨cause false, t.entrySpan⟩

def expected {α : Type} (wanted : List Wanted) : Parser α := failHere (.expected wanted)

/-- Takes so many trees. -/
def skip (n : Nat) : Parser Unit := modify (Row.advance n)

/-- Runs a parser, and answers also the trees that it takes. -/
def taking {α : Type} (p : Parser α) : Parser (α × List Tree) := do
  let before := (← get).written
  let a ← p
  let after := (← get).written
  return (a, (after.take (after.length - before.length)).reverse)

/-- Runs a parser that answers also how the trees that it takes are written. -/
def writing {α : Type} (p : Parser (α × List Tree)) : Parser α := do
  let before := (← get).written
  let (a, trees) ← p
  modify fun row => { row with written := trees.reverse ++ before }
  return a

/-- Takes a word that must be there. -/
def word (text : String) : Parser Unit := do
  if ← sees (Ahead.word text) then skip 1 else expected [.token text]

/-- Takes a word if it is there. -/
def word? (text : String) : Parser Bool := do
  if ← sees (Ahead.word text) then
    skip 1
    return true
  else return false

/-- Takes a word if it is there, and answers where. -/
def wordSpan? (text : String) : Parser (Option Span) := do
  let (there, trees) ← taking (word? text)
  return if there then some (Tree.spanOf trees) else none

def punct (text : String) : Parser Unit := do
  if ← sees (Ahead.punct text) then skip text.length else expected [.token text]

def punct? (text : String) : Parser Bool := do
  if ← sees (Ahead.punct text) then
    skip text.length
    return true
  else return false

/-- Takes any word, also a keyword. -/
def anyWord : Parser String := do
  match (← get).rest with
  | .word w _ :: _ =>
    skip 1
    return w
  | _ => expected [.kind "identifier"]

/-- Takes a word that is no keyword. -/
def name : Parser String := do
  match (← get).rest with
  | .word w _ :: _ =>
    if keywords.contains w then failHere fun _ => .expectedNotKeyword w
    else
      skip 1
      return w
  | _ => expected [.kind "identifier"]

/-- Takes a group of any kind. -/
def anyGroup : Parser Delimiter := do
  match (← get).rest with
  | .group d _ _ :: _ =>
    skip 1
    return d
  | _ => expected [.kind "delimiter"]

def lifetime : Parser Unit := do
  if ← sees Ahead.lifetime then skip 2 else expected [.kind "lifetime"]

def lifetime? : Parser Bool := do
  if ← sees Ahead.lifetime then
    skip 2
    return true
  else return false

def literal : Parser Unit := do
  match (← get).rest with
  | .literal _ _ :: _ => skip 1
  | _ => expected [.kind "literal"]

/-- Nothing may be left. -/
def finish : Parser Unit := do
  unless ← atEnd do failHere fun _ => .unexpectedToken

/-- The answer of a parser that must take all of a row. -/
def runOn {α : Type} (p : Parser α) (row : Row) : Except ParseFault α :=
  Prod.fst <$> (p <* finish).run row

/-- What a group of a kind is called. -/
def groupName : Delimiter → String
  | .parenthesis => "parentheses"
  | .bracket => "square brackets"
  | .brace => "curly braces"

/-- Takes a group, and answers its content. -/
def groupRow (d : Delimiter) : Parser Row := do
  match (← get).rest with
  | t@(.group d' content _) :: _ =>
    if d = d' then
      skip 1
      return ⟨content, t.exitSpan, []⟩
    else expected [.kind (groupName d)]
  | _ => expected [.kind (groupName d)]

/-- Takes a group, all of whose content a parser must take. -/
def inGroup {α : Type} (d : Delimiter) (p : Parser α) : Parser α := do
  let (a, inner) ← (p <* finish).run (← groupRow d)
  modify (Row.refill inner.written.reverse)
  return a

/-- Takes everything that is left. -/
def everything : Parser Unit := do skip (← get).rest.length

/-- How many trees there are before the first one that satisfies a test. -/
def countUpTo (stop : List Tree → Bool) : List Tree → Nat
  | [] => 0
  | t :: ts => if stop (t :: ts) then 0 else countUpTo stop ts + 1

/-- Takes trees up to one that satisfies a test, which stays. -/
def skipUpTo (stop : List Tree → Bool) : Parser Unit := do skip (countUpTo stop (← get).rest)

/-- The first of two parsers, unless it fails. -/
def orElse {α : Type} (p q : Parser α) : Parser α := fun row =>
  match p row with
  | .ok r => .ok r
  | .error _ => q row

/-- Items with a separator between them and perhaps behind the last one, up to where a test
holds; at most so many. -/
def listUpTo {α : Type} (separator : Parser Unit) (stop : List Tree → Bool) (item : Parser α) :
    Nat → Parser (List α)
  | 0 => return []
  | n + 1 => do
    if ← sees stop then return []
    let a ← item
    if ← sees stop then return [a]
    separator
    return a :: (← listUpTo separator stop item n)

/-- Items between commas up to where a test holds. Every comma is a tree, so there are no more
items than trees and one. -/
def commaList {α : Type} (stop : List Tree → Bool) (item : Parser α) : Parser (List α) := do
  listUpTo (punct ",") stop item ((← get).rest.length + 1)

/-- Items with a separator between them and perhaps behind the last one, as long as the
separator is there and a test does not forbid an item; at most so many. -/
def listWhile {α : Type} (separator : String) (stop : List Tree → Bool) (item : Parser α) :
    Nat → Parser (List α)
  | 0 => return []
  | n + 1 => do
    if ← sees stop then return []
    let a ← item
    if ← punct? separator then
      return a :: (← listWhile separator stop item n)
    else return [a]

/-- Items up to where a test holds; at most so many. -/
def manyUpTo {α : Type} (stop : List Tree → Bool) (item : Parser α) : Nat → Parser (List α)
  | 0 => return []
  | n + 1 => do
    if ← sees stop then return []
    let a ← item
    return a :: (← manyUpTo stop item n)

/-- Items between plus signs, possibly none. -/
def plusList {α : Type} (stop : List Tree → Bool) (item : Parser α) : Parser (List α) := do
  listWhile "+" stop item ((← get).rest.length + 1)

end Parser

end HandleBridge.Source
