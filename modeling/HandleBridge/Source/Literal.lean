import HandleBridge.Text.Identifier
import HandleBridge.Json.Text

/-
  Literals: strings, bytes, characters and numbers. Each scanner answers what is left behind the
  literal at the front of a text, or nothing if there is none.

  A quoted literal is scanned one character at a time by a small machine, so an escape may never
  run past the end of the text. Which escapes there are depends on the kind of the string.
-/

namespace HandleBridge.Source

open HandleBridge.Text (isIdentStart isIdentContinue)

/-- What a text begins with is cut off, if it does begin with it. -/
def dropLead (lead : String) (cs : List Char) : Option (List Char) :=
  if lead.toList.isPrefixOf cs then some (cs.drop lead.toList.length) else none

/-- What is left behind an identifier. -/
def afterIdent (cs : List Char) : Option (List Char) :=
  match cs with
  | c :: rest => if isIdentStart c then some (rest.dropWhile isIdentContinue) else none
  | [] => none

/-- A literal may be followed by a word without a gap, which names its type. -/
def afterSuffix (cs : List Char) : List Char := (afterIdent cs).getD cs

/-- Nothing that belongs to a word may follow. -/
def atWordEnd (cs : List Char) : Option (List Char) :=
  match cs with
  | c :: _ => if isIdentContinue c then none else some cs
  | [] => some []

namespace Literal

/-- What a string is made of. -/
inductive Kind where
  | text
  | bytes
  /-- Text for a nul-terminated string, without a nul. -/
  | nulTerminated
deriving DecidableEq

/-- Whether a character may stand in a string of a kind as it is. -/
def Kind.admits : Kind → Char → Bool
  | text, _ => true
  | bytes, c => c.toNat < 128
  | nulTerminated, c => c != '\x00'

/-- Escapes of one character. -/
def Kind.escapes : Kind → List Char
  | text | bytes => ['n', 'r', 't', '\\', '0', '\'', '"']
  | nulTerminated => ['n', 'r', 't', '\\', '\'', '"']

/-- Whether an escape by two hexadecimal digits is allowed. -/
def Kind.admitsHex : Kind → Nat → Nat → Bool
  | text, high, _ => high < 8
  | bytes, _, _ => true
  | nulTerminated, high, low => high != 0 || low != 0

/-- Whether a code point may be written as an escape. -/
def Kind.admitsCodePoint : Kind → Nat → Bool
  | text, n => n.isValidChar
  | bytes, _ => false
  | nulTerminated, n => n.isValidChar && n != 0

/-- Where in a string the scanner is. -/
inductive State where
  | plain
  /-- Behind a carriage return, which only a line feed may follow. -/
  | carriageReturn
  | backslash
  | hexFirst
  | hexSecond (high : Nat)
  | codePointOpen
  | codePoint (digits value : Nat)
  /-- Behind an escaped end of line: blanks are skipped. -/
  | continuation
  | continuationReturn
deriving DecidableEq

/-- The next character of a string; nothing if it may not stand there. The closing quote is
looked for before. -/
def State.plainStep (kind : Kind) (c : Char) : Option State :=
  if c = '\\' then some backslash
  else if c = '\r' then some carriageReturn
  else if kind.admits c then some plain
  else none

def State.step (kind : Kind) (c : Char) : State → Option State
  | plain => plainStep kind c
  | carriageReturn => if c = '\n' then some plain else none
  | backslash =>
    if c = 'x' then some hexFirst
    else if c = 'u' ∧ kind ≠ .bytes then some codePointOpen
    else if c = '\n' then some continuation
    else if c = '\r' then some continuationReturn
    else if kind.escapes.contains c then some plain
    else none
  | hexFirst => (Json.hexValue? c).map hexSecond
  | hexSecond high =>
    match Json.hexValue? c with
    | some low => if kind.admitsHex high low then some plain else none
    | none => none
  | codePointOpen => if c = '\x7b' then some (codePoint 0 0) else none
  | codePoint digits value =>
    if c = '_' ∧ 0 < digits then some (codePoint digits value)
    else if c = '\x7d' ∧ 0 < digits then
      if kind.admitsCodePoint value then some plain else none
    else
      match Json.hexValue? c with
      | some d => if digits < 6 then some (codePoint (digits + 1) (value * 16 + d)) else none
      | none => none
  | continuation =>
    if c = ' ' ∨ c = '\t' ∨ c = '\n' then some continuation
    else if c = '\r' then some continuationReturn
    else plainStep kind c
  | continuationReturn => if c = '\n' then some continuation else none

/-- Whether a quote in this state closes the string. -/
def State.mayClose : State → Bool
  | plain | continuation => true
  | _ => false

/-- What is left behind a string whose opening quote has been read. -/
def afterCooked (kind : Kind) : State → List Char → Option (List Char)
  | _, [] => none
  | state, c :: rest =>
    if c = '"' ∧ state.mayClose then some (afterSuffix rest)
    else
      match state.step kind c with
      | some next => afterCooked kind next rest
      | none => none

/-- Where in a raw string the scanner is. -/
inductive RawState where
  | plain
  | carriageReturn
  /-- Behind a quote and so many number signs. -/
  | closing (signs : Nat)

/-- What is left behind a raw string that `signs` number signs close. -/
def afterRaw (kind : Kind) (signs : Nat) : RawState → List Char → Option (List Char)
  | .closing n, cs =>
    if n = signs then some (afterSuffix cs)
    else
      match cs with
      | [] => none
      | c :: rest =>
        if c = '#' then afterRaw kind signs (.closing (n + 1)) rest
        else if c = '"' then afterRaw kind signs (.closing 0) rest
        else if c = '\r' then afterRaw kind signs .carriageReturn rest
        else if kind.admits c then afterRaw kind signs .plain rest
        else none
  | .carriageReturn, cs =>
    match cs with
    | '\n' :: rest => afterRaw kind signs .plain rest
    | _ => none
  | .plain, cs =>
    match cs with
    | [] => none
    | c :: rest =>
      if c = '"' then afterRaw kind signs (.closing 0) rest
      else if c = '\r' then afterRaw kind signs .carriageReturn rest
      else if kind.admits c then afterRaw kind signs .plain rest
      else none

/-- A raw string behind its letter: number signs, a quote, the content. -/
def rawString (kind : Kind) (cs : List Char) : Option (List Char) :=
  let signs := (cs.takeWhile (· == '#')).length
  match cs.dropWhile (· == '#') with
  | '"' :: rest => if signs ≤ 255 then afterRaw kind signs .plain rest else none
  | _ => none

/-- A string of a kind, whose ordinary and raw form begin as given. -/
def quoted (kind : Kind) (lead rawLead : String) (cs : List Char) : Option (List Char) :=
  match dropLead lead cs with
  | some rest => afterCooked kind .plain rest
  | none => (dropLead rawLead cs).bind (rawString kind)

/-- Runs an escape up to the state `plain`. -/
def afterEscape (kind : Kind) : State → List Char → Option (List Char)
  | _, [] => none
  | state, c :: rest =>
    match state.step kind c with
    | some .plain => some rest
    | some .continuation | some .continuationReturn | none => none
    | some next => afterEscape kind next rest

/-- One character or escape between two single quotes, the first of which has been read. -/
def afterCharacter (kind : Kind) (cs : List Char) : Option (List Char) :=
  let inner :=
    match cs with
    | '\\' :: rest => afterEscape kind .backslash rest
    | c :: rest => if kind.admits c then some rest else none
    | [] => none
  match inner with
  | some ('\'' :: rest) => some (afterSuffix rest)
  | _ => none

/-- A single character or byte. -/
def character (cs : List Char) : Option (List Char) :=
  match dropLead "b'" cs with
  | some rest => afterCharacter .bytes rest
  | none => (dropLead "'" cs).bind (afterCharacter .text)

/-- The digits and at most one point of a number, and whether they hold a point. -/
def mantissa (point : Bool) : List Char → Option (Bool × List Char)
  | [] => some (point, [])
  | c :: rest =>
    if c.isDigit || c == '_' then mantissa point rest
    else if c = '.' ∧ !point then
      match rest with
      | d :: _ => if d = '.' || isIdentStart d then none else mantissa true rest
      | [] => some (true, [])
    else some (point, c :: rest)

/-- What is left behind the sign and digits of an exponent. -/
def exponent : List Char → Option (List Char)
  | cs =>
    let signed := cs.dropWhile (· == '_')
    let digits :=
      match signed with
      | '+' :: rest | '-' :: rest => rest
      | _ => signed
    let tail := digits.dropWhile (· == '_')
    match tail with
    | d :: _ => if d.isDigit then some (tail.dropWhile fun c => c.isDigit || c == '_') else none
    | [] => none

/-- The digits of a number with a point or an exponent. Without digits, an exponent is taken for
the type of the number, if the number has a point. -/
def floatDigits (cs : List Char) : Option (List Char) :=
  match cs with
  | [] => none
  | c :: rest =>
    if !c.isDigit then none
    else
      match mantissa false rest with
      | none => none
      | some (point, left) =>
        match left with
        | e :: more =>
          if e = 'e' || e = 'E' then
            match exponent more with
            | some done => some done
            | none => if point then some left else none
          else if point then some left
          else none
        | [] => if point then some [] else none

def float (cs : List Char) : Option (List Char) :=
  (floatDigits cs).bind fun rest => atWordEnd (afterSuffix rest)

/-- Digits in a base. A letter that is no digit ends them; a decimal digit that is too large
makes the number invalid. -/
def digitsIn (base : Nat) (seen : Bool) : List Char → Option (List Char)
  | [] => if seen then some [] else none
  | c :: rest =>
    if c = '_' then if !seen && base == 10 then none else digitsIn base seen rest
    else
      match Json.hexValue? c with
      | some d =>
        if d < base then digitsIn base true rest
        else if c.isDigit then none
        else if seen then some (c :: rest) else none
      | none => if seen then some (c :: rest) else none

def integerDigits (cs : List Char) : Option (List Char) :=
  match cs with
  | '0' :: 'x' :: rest => digitsIn 16 false rest
  | '0' :: 'o' :: rest => digitsIn 8 false rest
  | '0' :: 'b' :: rest => digitsIn 2 false rest
  | _ => digitsIn 10 false cs

def integer (cs : List Char) : Option (List Char) :=
  (integerDigits cs).bind fun rest => atWordEnd (afterSuffix rest)

/-- What is left behind the literal at the front of a text. -/
def after? (cs : List Char) : Option (List Char) :=
  (quoted .text "\"" "r" cs).or <|
    (quoted .bytes "b\"" "br" cs).or <|
      (quoted .nulTerminated "c\"" "cr" cs).or <|
        (character cs).or <| (float cs).or (integer cs)

end Literal

end HandleBridge.Source
