import HandleBridge.Source.Tree

/-
  Why a row of trees is not what it should be. A fault points at the first tree that does not
  fit; where the row ends too early it points at what closes the row.
-/

namespace HandleBridge.Source

/-- What could have stood somewhere. -/
inductive Wanted where
  /-- This very token. -/
  | token (text : String)
  /-- Any token or group of a kind. -/
  | kind (name : String)
deriving DecidableEq

/-- A token is named between grave accents. -/
def Wanted.text : Wanted → String
  | token text => "`" ++ text ++ "`"
  | kind name => name

inductive ParseFault.Cause where
  /-- Something else was wanted; `atEnd` if nothing is left. -/
  | expected (wanted : List Wanted) (atEnd : Bool)
  | expectedNotKeyword (word : String)
  | expectedTraitPath
  | unexpectedToken
  | misplacedReceiver
  | secondReceiver
  | objectWithoutTrait
  | hiddenWithoutTrait
deriving DecidableEq

/-- A row of trees that is not what it should be. -/
structure ParseFault where
  cause : ParseFault.Cause
  span : Span
deriving DecidableEq

namespace ParseFault

/-- What was wanted, in words. -/
def wantedText : List Wanted → String
  | [a] => "expected " ++ a.text
  | [a, b] => "expected " ++ a.text ++ " or " ++ b.text
  | many => "expected one of: " ++ ", ".intercalate (many.map Wanted.text)

def Cause.message : Cause → String
  | expected wanted atEnd =>
    (if atEnd then "unexpected end of input, " else "") ++ wantedText wanted
  | expectedNotKeyword word => s!"expected identifier, found keyword `{word}`"
  | expectedTraitPath => "expected trait path"
  | unexpectedToken => "unexpected token"
  | misplacedReceiver => "unexpected method receiver"
  | secondReceiver => "unexpected second method receiver"
  | objectWithoutTrait => "at least one trait is required for an object type"
  | hiddenWithoutTrait => "at least one trait must be specified"

def message (f : ParseFault) : String := f.cause.message

end ParseFault

end HandleBridge.Source
