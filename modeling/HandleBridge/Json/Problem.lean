import HandleBridge.Decimal.Shortest
import HandleBridge.Text.Quoted

/-
  Why a text is not the JSON that was asked for: it ends too early, it is not JSON, or it is
  JSON of the wrong shape. The first problem from the left counts.
-/

namespace HandleBridge.Json

/-- What stands in the text where something else was asked for. -/
inductive Found where
  | bool (b : Bool)
  | integer (n : Int)
  | float (negative : Bool) (magnitude : Decimal.Binary64)
  | text (s : String)
  | null
  | sequence
  | map
deriving DecidableEq

def Found.describe : Found → String
  | bool b => s!"boolean `{b}`"
  | integer n => s!"integer `{n}`"
  | float negative x => s!"floating point `{Decimal.numberText negative x}`"
  | text s => "string " ++ Text.quote s
  | null => "null"
  | sequence => "sequence"
  | map => "map"

/-- A well-formed text with the wrong content. `expected` is the name of what was asked for. -/
inductive Mismatch where
  | wrongKind (found : Found) (expected : String)
  | wrongValue (found : Found) (expected : String)
  /-- A known key stands a second time in one object. -/
  | duplicate (field : String)
deriving DecidableEq

def Mismatch.describe : Mismatch → String
  | wrongKind found expected => s!"invalid type: {found.describe}, expected {expected}"
  | wrongValue found expected => s!"invalid value: {found.describe}, expected {expected}"
  | duplicate field => s!"duplicate field `{field}`"

/-- The first problem of a text. -/
inductive Problem where
  | endOfText
  | malformed
  | mismatch (m : Mismatch)
deriving DecidableEq

/-- The word for the kind of problem. -/
def Problem.category : Problem → String
  | endOfText => "eof"
  | malformed => "syntax"
  | mismatch _ => "data"

/-- The part of a text that a reader took, and what is left. -/
abbrev Reading (α : Type) := Except Problem (α × List Char)

end HandleBridge.Json
