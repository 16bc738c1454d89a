import HandleBridge.Source.Parser

/-
  Attributes: a number sign and a bracket group, with an exclamation mark between them if the
  attribute stands in what it is about.
-/

namespace HandleBridge.Source

/-- An attribute, and whether it is documentation. -/
structure Attribute where
  trees : List Tree
  isDoc : Bool

namespace Attribute

/-- Whether the content of an attribute is about the path `doc`. -/
def isDocContent : List Tree → Bool
  | .word w _ :: rest => w == "doc" && !Ahead.punct "::" rest
  | _ => false

/-- An attribute of what follows. -/
def outer : Parser Attribute := do
  let (row, trees) ← Parser.taking do
    Parser.punct "#"
    Parser.groupRow .bracket
  return ⟨trees, isDocContent row.rest⟩

/-- An attribute of what it stands in. -/
def inner : Parser Attribute := do
  let (row, trees) ← Parser.taking do
    Parser.punct "#"
    Parser.punct "!"
    Parser.groupRow .bracket
  return ⟨trees, isDocContent row.rest⟩

/-- Attributes one after another, at most so many. -/
def many (more : List Tree → Bool) (one : Parser Attribute) : Nat → Parser (List Attribute)
  | 0 => return []
  | n + 1 => do
    if ← Parser.sees more then
      let a ← one
      return a :: (← many more one n)
    else return []

/-- All attributes of what follows. -/
def outers : Parser (List Attribute) := do
  many (Ahead.punct "#") outer (← get).rest.length

/-- Whether an attribute of the surrounding item comes next. -/
def innerAhead : List Tree → Bool
  | .punct '#' _ _ :: rest => Ahead.punct "!" rest
  | _ => false

/-- All attributes of what they stand in. -/
def inners : Parser (List Attribute) := do
  many innerAhead inner (← get).rest.length

end Attribute

end HandleBridge.Source
