import HandleBridge.Json.Number

/-
  Crossing a JSON value that nobody asked for. It must be well formed, but its strings need not
  be text and its numbers need not be in range, and it may nest to any depth: the open brackets
  are kept in a list.

  A number that breaks off at the end of the text is malformed here, not ended too early.
-/

namespace HandleBridge.Json

/-- An open bracket. -/
inductive Bracket where
  | list
  | object
deriving DecidableEq

/-- The character that closes a bracket. -/
def Bracket.close : Bracket → Char
  | list => ']'
  | object => '\x7d'

/-- What may come next. -/
inductive Expecting where
  /-- A value. -/
  | value
  /-- The first element after an open bracket, or its close. -/
  | firstOrClose
  /-- An element: a value, in an object after a key. -/
  | element
  /-- A comma or the close of the innermost bracket; nothing if no bracket is open. -/
  | commaOrClose
deriving DecidableEq

/-- How many more steps without progress in the text may follow. -/
def Expecting.rank : Expecting → Nat
  | value => 0
  | element => 1
  | firstOrClose => 2
  | commaOrClose => 2

/-- Crosses a key and the colon after it. -/
def skipKey (cs : List Char) : Except Problem (List Char) :=
  match skipBlanks cs with
  | [] => .error .endOfText
  | c :: cs =>
    if c = '"' then
      match skipString cs with
      | .error p => .error p
      | .ok cs =>
        match skipBlanks cs with
        | [] => .error .endOfText
        | c :: cs => if c = ':' then .ok cs else .error .malformed
    else .error .malformed

theorem skipKey_shorter {cs rest : List Char} (h : skipKey cs = .ok rest) :
    rest.length < cs.length := by
  unfold skipKey at h
  have hb := length_skipBlanks cs
  split at h
  · cases h
  · rename_i c r hr
    rw [hr] at hb
    simp only [List.length_cons] at hb
    split at h
    · split at h
      · cases h
      · rename_i r' hs
        have h1 := skipString_shorter hs
        have h2 := length_skipBlanks r'
        split at h
        · cases h
        · rename_i hr'
          rw [hr'] at h2
          simp only [List.length_cons] at h2
          split at h
          · cases h
            omega
          · cases h
    · cases h

/-- What a value without brackets leaves. -/
def skipScalar (c : Char) (cs : List Char) : Except Problem (List Char) :=
  if c = 'n' then expectWord ['u', 'l', 'l'] cs
  else if c = 't' then expectWord ['r', 'u', 'e'] cs
  else if c = 'f' then expectWord ['a', 'l', 's', 'e'] cs
  else if c = '"' then skipString cs
  else if startsNumber c then
    match readNumeral .malformed (c :: cs) with
    | .error p => .error p
    | .ok (_, rest) => .ok rest
  else .error .malformed

theorem skipScalar_shorter {c : Char} {cs rest : List Char} (h : skipScalar c cs = .ok rest) :
    rest.length < (c :: cs).length := by
  unfold skipScalar at h
  repeat' split at h
  · exact Nat.lt_succ_of_le (expectWord_shorter h)
  · exact Nat.lt_succ_of_le (expectWord_shorter h)
  · exact Nat.lt_succ_of_le (expectWord_shorter h)
  · exact Nat.lt_succ_of_lt (skipString_shorter h)
  · cases h
  · rename_i hn
    cases h
    exact readNumeral_shorter hn
  · cases h

/-- Crosses what `what` says and all that is still open, innermost bracket first. -/
def skipFrom (what : Expecting) (stack : List Bracket) (cs : List Char) :
    Except Problem (List Char) :=
  match what, stack with
  | .value, stack =>
    match h : skipBlanks cs with
    | [] => .error .endOfText
    | c :: rest =>
      have : rest.length < cs.length := by
        have := length_skipBlanks cs
        rw [h] at this
        exact this
      if c = '[' then skipFrom .firstOrClose (.list :: stack) rest
      else if c = '\x7b' then skipFrom .firstOrClose (.object :: stack) rest
      else
        match hs : skipScalar c rest with
        | .error p => .error p
        | .ok rest' =>
          have := skipScalar_shorter hs
          skipFrom .commaOrClose stack rest'
  | .firstOrClose, [] => .error .malformed
  | .firstOrClose, b :: stack =>
    match h : skipBlanks cs with
    | [] => .error .endOfText
    | c :: rest =>
      have : rest.length < cs.length := by
        have := length_skipBlanks cs
        rw [h] at this
        exact this
      if c = b.close then skipFrom .commaOrClose stack rest
      else skipFrom .element (b :: stack) cs
  | .element, .object :: stack =>
    match hk : skipKey cs with
    | .error p => .error p
    | .ok rest =>
      have := skipKey_shorter hk
      skipFrom .value (.object :: stack) rest
  | .element, stack => skipFrom .value stack cs
  | .commaOrClose, [] => .ok cs
  | .commaOrClose, b :: stack =>
    match h : skipBlanks cs with
    | [] => .error .endOfText
    | c :: rest =>
      have : rest.length < cs.length := by
        have := length_skipBlanks cs
        rw [h] at this
        exact this
      if c = ',' then skipFrom .element (b :: stack) rest
      else if c = b.close then skipFrom .commaOrClose stack rest
      else .error .malformed
termination_by 5 * cs.length + what.rank
decreasing_by
  all_goals simp only [Expecting.rank, List.length_cons] at *
  all_goals omega

/-- Crosses one value. -/
def skipValue (cs : List Char) : Except Problem (List Char) := skipFrom .value [] cs

/-- What is left is shorter, unless nothing had to follow. -/
theorem skipFrom_shorter {what : Expecting} {stack : List Bracket} {cs rest : List Char}
    (h : skipFrom what stack cs = .ok rest) :
    rest.length < cs.length + (if what = .commaOrClose then 1 else 0) := by
  fun_induction skipFrom what stack cs <;> simp_all <;> omega

theorem skipValue_shorter {cs rest : List Char} (h : skipValue cs = .ok rest) :
    rest.length < cs.length := by
  simpa using skipFrom_shorter h

end HandleBridge.Json
