import HandleBridge.Source.Tree
import HandleBridge.Source.Literal
import HandleBridge.Text.Quoted

/-
  From text to token trees. Blanks and ordinary comments separate tokens; a documentation comment
  stands for the attribute that it abbreviates. A text is refused if a delimiter has no partner,
  if a literal or comment does not end, or if a character starts no token.
-/

namespace HandleBridge.Source

open HandleBridge.Text (isIdentStart isIdentContinue)

/-- A text from some place on. -/
structure Cursor where
  rest : List Char
  place : Place := {}

namespace Cursor

/-- The place behind a character. -/
def step (p : Place) (c : Char) : Place :=
  if c = '\n' then ⟨p.line + 1, 0⟩ else { p with column := p.column + 1 }

/-- The cursor after `n` characters. -/
def forward : Nat → Cursor → Cursor
  | 0, c => c
  | _ + 1, ⟨[], p⟩ => ⟨[], p⟩
  | n + 1, ⟨ch :: rest, p⟩ => forward n ⟨rest, step p ch⟩

/-- The cursor where only `rest` is left. -/
def upTo (rest : List Char) (c : Cursor) : Cursor :=
  c.forward (c.rest.length - rest.length)

/-- The characters between two cursors on one text. -/
def between (before after : Cursor) : List Char :=
  before.rest.take (before.rest.length - after.rest.length)

def startsWith (lead : String) (c : Cursor) : Bool := lead.toList.isPrefixOf c.rest

end Cursor

/-- Whether a character separates tokens. -/
def isBlank (c : Char) : Bool :=
  let n := c.toNat
  n == 0x20 || (9 ≤ n && n ≤ 13) || n == 0x85 || n == 0xa0 || n == 0x1680
    || (0x2000 ≤ n && n ≤ 0x200a) || n == 0x200e || n == 0x200f || n == 0x2028 || n == 0x2029
    || n == 0x202f || n == 0x205f || n == 0x3000

/-- The characters that make punctuation. -/
def punctuation : List Char :=
  ['~', '!', '@', '#', '$', '%', '^', '&', '*', '-', '=', '+', '|', ';', ':', ',', '<', '.', '>',
    '/', '?', '\'']

/-- What is left behind a block comment that is `depth` levels deep; comments nest. -/
def afterBlock (depth : Nat) : List Char → Option (List Char)
  | '/' :: '*' :: rest => afterBlock (depth + 1) rest
  | '*' :: '/' :: rest => if depth = 1 then some rest else afterBlock (depth - 1) rest
  | _ :: rest => afterBlock depth rest
  | [] => none

/-- A block comment at the front. -/
def blockComment? (cs : List Char) : Option (List Char) :=
  match cs with
  | '/' :: '*' :: rest => afterBlock 1 rest
  | _ => none

/-- The rest of a line and what is left behind it; a carriage return before the line feed
belongs to neither. -/
def lineSplit : List Char → List Char × List Char
  | '\r' :: '\n' :: rest => ([], '\n' :: rest)
  | '\n' :: rest => ([], '\n' :: rest)
  | c :: rest =>
    let (line, after) := lineSplit rest
    (c :: line, after)
  | [] => ([], [])

/-- What is left behind an ordinary comment at the front. -/
def comment? (c : Cursor) : Option (List Char) :=
  if c.startsWith "//" && (!c.startsWith "///" || c.startsWith "////") && !c.startsWith "//!" then
    some (lineSplit c.rest).2
  else if c.startsWith "/**/" then some (c.rest.drop 4)
  else if c.startsWith "/*" && (!c.startsWith "/**" || c.startsWith "/***")
      && !c.startsWith "/*!" then
    blockComment? c.rest
  else none

/-- Skips blanks and ordinary comments, at most so many of them. -/
def skipBlanks : Nat → Cursor → Cursor
  | 0, c => c
  | n + 1, c =>
    match c.rest with
    | [] => c
    | ch :: _ =>
      match comment? c with
      | some rest => skipBlanks n (c.upTo rest)
      | none => if isBlank ch then skipBlanks n (c.forward 1) else c

/-- A documentation comment. -/
structure Documentation where
  text : List Char
  /-- Whether it documents what it stands in. -/
  inner : Bool
  rest : List Char

/-- Whether every carriage return has its line feed. -/
def lineEndsPaired : List Char → Bool
  | '\r' :: '\n' :: rest => lineEndsPaired rest
  | '\r' :: _ => false
  | _ :: rest => lineEndsPaired rest
  | [] => true

/-- The text of a block comment between its marks, of which the first has three characters. -/
def blockText (cs rest : List Char) : List Char :=
  let whole := cs.take (cs.length - rest.length)
  (whole.drop 3).take (whole.length - 5)

/-- The documentation comment at the front. -/
def documentation? (c : Cursor) : Option Documentation :=
  let line := fun (inner : Bool) =>
    let (text, rest) := lineSplit (c.rest.drop 3)
    some (⟨text, inner, rest⟩ : Documentation)
  let block := fun (inner : Bool) =>
    (blockComment? c.rest).map fun rest => (⟨blockText c.rest rest, inner, rest⟩ : Documentation)
  if c.startsWith "//!" then line true
  else if c.startsWith "/*!" then block true
  else if c.startsWith "///" then if c.startsWith "////" then none else line false
  else if c.startsWith "/**" && !c.startsWith "/***" then block false
  else none

/-- A text as a string literal. A nul before an octal digit is written in full. -/
def quotedText : List Char → String
  | [] => ""
  | '\x00' :: d :: rest =>
    (if '0' ≤ d ∧ d ≤ '7' then "\\x00" else "\\0") ++ quotedText (d :: rest)
  | c :: rest => Text.quoteChar c ++ quotedText rest

/-- The attribute that a documentation comment abbreviates, all of it standing where the comment
stands. -/
def Documentation.trees (d : Documentation) (s : Span) : List Tree :=
  let mark := if d.inner then [Tree.punct '!' false s] else []
  let value := Tree.literal ("\"" ++ quotedText d.text ++ "\"") s
  .punct '#' false s :: mark ++ [.group .bracket [.word "doc" s, .punct '=' false s, value] s]

/-- The beginnings of literals, which start no word. -/
def literalLeads : List String :=
  ["r\"", "r#\"", "r##", "b\"", "b'", "br\"", "br#", "c\"", "cr\"", "cr#"]

/-- The sign that stands for a text which could not be read. It is a literal as a whole. -/
def errorSign : String := "(/*ERROR*/)"

/-- Words that have no raw form. -/
def neverRaw : List String := ["_", "super", "self", "Self", "crate"]

/-- What is left behind a word, which may be raw. -/
def afterWord (cs : List Char) : Option (List Char) :=
  match dropLead "r#" cs with
  | some rest =>
    (afterIdent rest).bind fun after =>
      let name := String.ofList (rest.take (rest.length - after.length))
      if neverRaw.contains name then none else some after
  | none => afterIdent cs

/-- A punctuation character at the front. A slash that opens a comment is none. -/
def punctChar? (c : Cursor) : Option Char :=
  if c.startsWith "//" || c.startsWith "/*" then none
  else
    match c.rest with
    | ch :: _ => if punctuation.contains ch then some ch else none
    | [] => none

/-- Whether a quote opens the name of a lifetime, which has no closing quote. -/
def opensLifetime (rest : List Char) : Bool :=
  match afterWord rest with
  | some ('\'' :: _) => false
  | some ('#' :: _) => "r#".toList.isPrefixOf rest
  | some _ => true
  | none => false

/-- The token at the front that is no group. -/
def leaf? (c : Cursor) : Option (Tree × Cursor) :=
  let upTo := fun (make : String → Span → Tree) (rest : List Char) =>
    let after := c.upTo rest
    (make (String.ofList (c.between after)) ⟨c.place, after.place⟩, after)
  match Literal.after? c.rest with
  | some rest => some (upTo .literal rest)
  | none =>
    match punctChar? c with
    | some ch =>
      let after := c.forward 1
      if ch = '\'' then
        if opensLifetime after.rest then some (.punct ch true ⟨c.place, after.place⟩, after)
        else none
      else some (.punct ch (punctChar? after).isSome ⟨c.place, after.place⟩, after)
    | none =>
      if literalLeads.any c.startsWith then none
      else if c.startsWith errorSign then
        some (upTo .literal (c.rest.drop errorSign.toList.length))
      else (afterWord c.rest).map (upTo .word)

/-- A group whose closing delimiter has not been met: its delimiter and place, and the trees
before it, last one first. -/
structure OpenGroup where
  delimiter : Delimiter
  place : Place
  before : List Tree

/-- Reads trees up to the end, at most so many tokens. `done` holds the trees of the innermost
open group, last one first. -/
def readTrees : Nat → List OpenGroup → List Tree → Cursor → Option (List Tree)
  | 0, _, _, _ => none
  | n + 1, opened, done, c =>
    let c := skipBlanks c.rest.length c
    match documentation? c with
    | some d =>
      if lineEndsPaired d.text then
        let after := c.upTo d.rest
        readTrees n opened ((d.trees ⟨c.place, after.place⟩).reverse ++ done) after
      else none
    | none =>
      match c.rest with
      | [] => if opened.isEmpty then some done.reverse else none
      | ch :: _ =>
        let after := c.forward 1
        let opens := if c.startsWith errorSign then none else Delimiter.ofOpening? ch
        match opens, Delimiter.ofClosing? ch with
        | some d, _ => readTrees n (⟨d, c.place, done⟩ :: opened) [] after
        | none, some d =>
          match opened with
          | [] => none
          | g :: outer =>
            if g.delimiter = d then
              readTrees n outer (.group d done.reverse ⟨g.place, after.place⟩ :: g.before) after
            else none
        | none, none =>
          match leaf? c with
          | some (tree, after) => readTrees n opened (tree :: done) after
          | none => none

/-- The trees of a text, unless it is refused. A byte order mark at its front is passed over. -/
def treesOf? (text : String) : Option (List Tree) :=
  let c : Cursor := ⟨text.toList, {}⟩
  let c := if c.startsWith "\ufeff" then c.forward 1 else c
  readTrees (c.rest.length + 1) [] [] c

end HandleBridge.Source
