import HandleBridge.Json.Problem

/-
  The small pieces of JSON: blanks, words, strings and their escapes.

  A string is read in one of two ways. A kept string is decoded, and must be text: surrogate
  escapes come in pairs. A skipped string is only crossed, and any escape of four digits will do.

  Where a string is written, quotes, backslashes and controls below U+0020 are escaped, by a short
  escape where there is one; everything else stands as it is.

  Proved: whatever is read is shorter afterwards (`shorter` lemmas); the recursions of the
  readers rest on this.
-/

namespace HandleBridge.Json

def isBlank (c : Char) : Bool := c == ' ' || c == '\n' || c == '\t' || c == '\r'

/-- The text from its first character that is no blank. -/
def skipBlanks (cs : List Char) : List Char := cs.dropWhile isBlank

theorem length_skipBlanks (cs : List Char) : (skipBlanks cs).length ≤ cs.length :=
  (List.dropWhile_sublist isBlank).length_le

/-- Crosses the characters of `word`. -/
def expectWord : List Char → List Char → Except Problem (List Char)
  | [], cs => .ok cs
  | _ :: _, [] => .error .endOfText
  | w :: word, c :: cs => if c = w then expectWord word cs else .error .malformed

theorem expectWord_shorter {word cs rest : List Char} (h : expectWord word cs = .ok rest) :
    rest.length ≤ cs.length := by
  induction word generalizing cs with
  | nil =>
    simp only [expectWord, Except.ok.injEq] at h
    exact Nat.le_of_eq (congrArg List.length h.symm)
  | cons w word ih =>
    cases cs with
    | nil => simp [expectWord] at h
    | cons c cs =>
      simp only [expectWord] at h
      split at h
      · exact Nat.le_succ_of_le (ih h)
      · cases h

/-- The value of a hexadecimal digit. -/
def hexValue? (c : Char) : Option Nat :=
  if '0' ≤ c && c ≤ '9' then some (c.toNat - '0'.toNat)
  else if 'a' ≤ c && c ≤ 'f' then some (c.toNat - 'a'.toNat + 10)
  else if 'A' ≤ c && c ≤ 'F' then some (c.toNat - 'A'.toNat + 10)
  else none

/-- The bytes that the text takes in UTF-8. -/
def byteLength (cs : List Char) : Nat := (String.ofList cs).utf8ByteSize

/-- The four digits of an escape. A text with fewer than four bytes left has ended. -/
def hexFour : List Char → Reading Nat
  | a :: b :: c :: d :: rest =>
    match hexValue? a, hexValue? b, hexValue? c, hexValue? d with
    | some x, some y, some z, some w => .ok (((x * 16 + y) * 16 + z) * 16 + w, rest)
    | _, _, _, _ => .error .malformed
  | short => if byteLength short < 4 then .error .endOfText else .error .malformed

theorem hexFour_shorter {cs rest : List Char} {n : Nat} (h : hexFour cs = .ok (n, rest)) :
    rest.length + 4 = cs.length := by
  unfold hexFour at h
  split at h
  · split at h
    · cases h
      rfl
    · cases h
  · split at h <;> cases h

/-- The first half of a surrogate pair. -/
def isHighSurrogate (n : Nat) : Bool := 0xd800 ≤ n && n ≤ 0xdbff

/-- The second half of a surrogate pair. -/
def isLowSurrogate (n : Nat) : Bool := 0xdc00 ≤ n && n ≤ 0xdfff

/-- The character of a surrogate pair. -/
def pairChar (high low : Nat) : Char :=
  Char.ofNat ((high - 0xd800) * 0x400 + (low - 0xdc00) + 0x10000)

/-- The second half of a pair whose first half is `high`: another numbered escape. -/
def secondHalf (high : Nat) : List Char → Reading Char
  | [] => .error .endOfText
  | [c] => if c = '\\' then .error .endOfText else .error .malformed
  | c :: d :: rest =>
    if c = '\\' ∧ d = 'u' then
      match hexFour rest with
      | .error p => .error p
      | .ok (low, rest) =>
        if isLowSurrogate low then .ok (pairChar high low, rest) else .error .malformed
    else .error .malformed

theorem secondHalf_shorter {high : Nat} {cs rest : List Char} {c : Char}
    (h : secondHalf high cs = .ok (c, rest)) : rest.length < cs.length := by
  match cs with
  | [] => cases h
  | [d] =>
    simp only [secondHalf] at h
    split at h <;> cases h
  | d :: e :: r =>
    simp only [secondHalf] at h
    split at h
    · split at h
      · cases h
      · rename_i low r hm
        have h4 := hexFour_shorter hm
        split at h
        · simp only [Except.ok.injEq, Prod.mk.injEq] at h
          rw [← h.2]
          simp only [List.length_cons]
          omega
        · cases h
    · cases h

/-- The character of an escape by number, after `\u`. -/
def numberedEscape (cs : List Char) : Reading Char :=
  match hexFour cs with
  | .error p => .error p
  | .ok (n, rest) =>
    if isLowSurrogate n then .error .malformed
    else if isHighSurrogate n then secondHalf n rest
    else .ok (Char.ofNat n, rest)

theorem numberedEscape_shorter {cs rest : List Char} {c : Char}
    (h : numberedEscape cs = .ok (c, rest)) : rest.length < cs.length := by
  unfold numberedEscape at h
  split at h
  · cases h
  · rename_i n r hn
    have h4 := hexFour_shorter hn
    split at h
    · cases h
    · split at h
      · have := secondHalf_shorter h
        omega
      · cases h
        omega

/-- The character of a short escape. -/
def shortEscape? (c : Char) : Option Char :=
  if c == '"' then some '"'
  else if c == '\\' then some '\\'
  else if c == '/' then some '/'
  else if c == 'b' then some '\x08'
  else if c == 'f' then some '\x0c'
  else if c == 'n' then some '\n'
  else if c == 'r' then some '\r'
  else if c == 't' then some '\t'
  else none

/-- The character of an escape, after the backslash. -/
def escape : List Char → Reading Char
  | [] => .error .endOfText
  | c :: rest =>
    match shortEscape? c with
    | some d => .ok (d, rest)
    | none => if c = 'u' then numberedEscape rest else .error .malformed

theorem escape_shorter {cs rest : List Char} {c : Char} (h : escape cs = .ok (c, rest)) :
    rest.length < cs.length := by
  unfold escape at h
  split at h
  · cases h
  · split at h
    · cases h
      exact Nat.lt_succ_self _
    · split at h
      · exact Nat.lt_succ_of_lt (numberedEscape_shorter h)
      · cases h

/-- Crosses an escape, after the backslash. -/
def skipEscape : List Char → Except Problem (List Char)
  | [] => .error .endOfText
  | c :: rest =>
    match shortEscape? c with
    | some _ => .ok rest
    | none =>
      if c = 'u' then
        match hexFour rest with
        | .error p => .error p
        | .ok (_, rest) => .ok rest
      else .error .malformed

theorem skipEscape_shorter {cs rest : List Char} (h : skipEscape cs = .ok rest) :
    rest.length < cs.length := by
  unfold skipEscape at h
  split at h
  · cases h
  · split at h
    · cases h
      exact Nat.lt_succ_self _
    · split at h
      · split at h
        · cases h
        · rename_i hf
          cases h
          have := hexFour_shorter hf
          simp only [List.length_cons]
          omega
      · cases h

/-- The rest of a kept string, up to and with its closing quote; `before` holds what was read of
it so far, last character first. -/
def keptString (before : List Char) : List Char → Reading (List Char)
  | [] => .error .endOfText
  | c :: rest =>
    if c = '"' then .ok (before.reverse, rest)
    else if c = '\\' then
      match h : escape rest with
      | .error p => .error p
      | .ok (d, rest') =>
        have := escape_shorter h
        keptString (d :: before) rest'
    else if c.toNat < 0x20 then .error .malformed
    else keptString (c :: before) rest
termination_by cs => cs.length
decreasing_by
  · simp only [List.length_cons]; omega
  · simp only [List.length_cons]; omega

theorem keptString_shorter {before cs rest s : List Char}
    (h : keptString before cs = .ok (s, rest)) : rest.length < cs.length := by
  fun_induction keptString before cs with
  | case1 => cases h
  | case2 =>
    cases h
    exact Nat.lt_succ_self _
  | case3 => cases h
  | case4 =>
    rename_i hlt _ ih
    exact Nat.lt_succ_of_lt (Nat.lt_trans (ih h) hlt)
  | case5 => cases h
  | case6 _ _ _ _ _ _ ih => exact Nat.lt_succ_of_lt (ih h)

/-- Crosses the rest of a string and its closing quote. -/
def skipString : List Char → Except Problem (List Char)
  | [] => .error .endOfText
  | c :: rest =>
    if c = '"' then .ok rest
    else if c = '\\' then
      match h : skipEscape rest with
      | .error p => .error p
      | .ok rest' =>
        have := skipEscape_shorter h
        skipString rest'
    else if c.toNat < 0x20 then .error .malformed
    else skipString rest
termination_by cs => cs.length
decreasing_by
  · simp only [List.length_cons]; omega
  · simp only [List.length_cons]; omega

theorem skipString_shorter {cs rest : List Char} (h : skipString cs = .ok rest) :
    rest.length < cs.length := by
  fun_induction skipString cs with
  | case1 => cases h
  | case2 =>
    cases h
    exact Nat.lt_succ_self _
  | case3 => cases h
  | case4 =>
    rename_i hlt _ ih
    exact Nat.lt_succ_of_lt (Nat.lt_trans (ih h) hlt)
  | case5 => cases h
  | case6 _ _ _ _ _ ih => exact Nat.lt_succ_of_lt (ih h)

/-- A string with its opening quote crossed already, as text. -/
def readString (cs : List Char) : Reading String :=
  match keptString [] cs with
  | .error p => .error p
  | .ok (s, rest) => .ok (String.ofList s, rest)

theorem readString_shorter {cs rest : List Char} {s : String}
    (h : readString cs = .ok (s, rest)) : rest.length < cs.length := by
  unfold readString at h
  split at h
  · cases h
  · rename_i hk
    cases h
    exact keptString_shorter hk

/-! Written strings. -/

/-- A lower case hexadecimal digit. -/
def lowHex (n : Nat) : Char := if n < 10 then Char.ofNat (48 + n) else Char.ofNat (87 + n)

/-- How one character stands in a JSON string. -/
def writtenChar (c : Char) : List Char :=
  if c = '"' then ['\\', '"']
  else if c = '\\' then ['\\', '\\']
  else if c = '\x08' then ['\\', 'b']
  else if c = '\x0c' then ['\\', 'f']
  else if c = '\n' then ['\\', 'n']
  else if c = '\r' then ['\\', 'r']
  else if c = '\t' then ['\\', 't']
  else if c.toNat < 0x20 then ['\\', 'u', '0', '0', lowHex (c.toNat / 16), lowHex (c.toNat % 16)]
  else [c]

/-- A text as a JSON string. -/
def written (s : String) : List Char := '"' :: s.toList.flatMap writtenChar ++ ['"']

/-- A member of an object. -/
def member (key : String) (value : List Char) : List Char := written key ++ ':' :: value

example : String.ofList (written "a\"\n\x1f\x7fé") = "\"a\\\"\\n\\u001f\x7fé\"" := by
  decide +kernel

end HandleBridge.Json
