/-
  Source text as token trees: words, single punctuation characters and literals, with what stands
  between two matching delimiters gathered into a group. Every tree knows where it stands.

  Lines count from one, columns from zero in characters; a span ends before its `stop`.
-/

namespace HandleBridge.Source

/-- A place in a text. -/
structure Place where
  line : Nat := 1
  column : Nat := 0
deriving DecidableEq

/-- A piece of a text. -/
structure Span where
  start : Place
  stop : Place
deriving DecidableEq

/-- The span of nothing in particular. -/
def Span.nowhere : Span := ⟨{}, {}⟩

inductive Delimiter where
  | parenthesis
  | bracket
  | brace
deriving DecidableEq

namespace Delimiter

def opening : Delimiter → Char
  | parenthesis => '('
  | bracket => '['
  | brace => '\x7b'

def closing : Delimiter → Char
  | parenthesis => ')'
  | bracket => ']'
  | brace => '\x7d'

/-- The delimiter that a character opens. -/
def ofOpening? (c : Char) : Option Delimiter :=
  [parenthesis, bracket, brace].find? fun d => d.opening == c

/-- The delimiter that a character closes. -/
def ofClosing? (c : Char) : Option Delimiter :=
  [parenthesis, bracket, brace].find? fun d => d.closing == c

end Delimiter

/-- A token, or a group of them. -/
inductive Tree where
  /-- An identifier or keyword; a raw one keeps its mark. -/
  | word (text : String) (span : Span)
  /-- A punctuation character; `joint` if another one follows at once. -/
  | punct (char : Char) (joint : Bool) (span : Span)
  | literal (text : String) (span : Span)
  | group (delimiter : Delimiter) (content : List Tree) (span : Span)

namespace Tree

def span : Tree → Span
  | word _ s | punct _ _ s | literal _ s | group _ _ s => s

/-- The span that a complaint about the tree points at: of a group the opening character. -/
def entrySpan : Tree → Span
  | group _ _ s => ⟨s.start, { s.start with column := s.start.column + 1 }⟩
  | t => t.span

/-- The span of the last character. -/
def exitSpan (t : Tree) : Span :=
  ⟨{ t.span.stop with column := t.span.stop.column - 1 }, t.span.stop⟩

mutual

/-- The tokens one by one. -/
def tokens : Tree → List String
  | word text _ => [text]
  | punct c _ _ => [String.singleton c]
  | literal text _ => [text]
  | group d content _ =>
    String.singleton d.opening :: tokensOf content ++ [String.singleton d.closing]

/-- The tokens of a row of trees. -/
def tokensOf : List Tree → List String
  | [] => []
  | t :: ts => tokens t ++ tokensOf ts

end

mutual

/-- Whether some word, at any depth, has a property. -/
def anyWord (p : String → Bool) : Tree → Bool
  | word text _ => p text
  | group _ content _ => anyWordOf p content
  | _ => false

/-- Whether some word of a row of trees, at any depth, has a property. -/
def anyWordOf (p : String → Bool) : List Tree → Bool
  | [] => false
  | t :: ts => anyWord p t || anyWordOf p ts

end

mutual

/-- How many tokens there are. -/
def weight : Tree → Nat
  | group _ content _ => weightOf content + 2
  | _ => 1

/-- How many tokens a row of trees has. -/
def weightOf : List Tree → Nat
  | [] => 0
  | t :: ts => weight t + weightOf ts

end

theorem anyWordOf_eq_any (p : String → Bool) (ts : List Tree) :
    anyWordOf p ts = ts.any (anyWord p) := by
  induction ts with
  | nil => rfl
  | cons t ts ih => simp [anyWordOf, ih]

/-- From the first to the last of a row of trees. -/
def spanOf : List Tree → Span
  | [] => .nowhere
  | t :: ts => ⟨t.span.start, ((t :: ts).getLast (by simp)).span.stop⟩

end Tree

end HandleBridge.Source
