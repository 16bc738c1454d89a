import HandleBridge.Json.Skip

/-
  Records in JSON. A record is written as an object, whose members may come in any order and may
  be missing, or as an array with the fields in their order, of which the last may be missing.
  What is missing keeps its default. Members with other keys are crossed; a field that comes a
  second time is refused at its key.
-/

namespace HandleBridge.Json

/-- A reader of one value that always takes something off the text. -/
structure Reader (α : Type) where
  run : List Char → Reading α
  shorter : ∀ {cs rest : List Char} {a : α}, run cs = .ok (a, rest) → rest.length < cs.length

/-- A field of a record `S`: its key, and a reader that answers how to set it. -/
structure Field (S : Type) where
  key : String
  reader : Reader (S → S)

variable {S : Type}

/-- What a value of the wrong kind is, given its first character and the rest. Its whole text is
read only as far as that takes. -/
def foundAt (c : Char) (cs : List Char) : Except Problem Found :=
  if c = 'n' then (expectWord ['u', 'l', 'l'] cs).map fun _ => .null
  else if c = 't' then (expectWord ['r', 'u', 'e'] cs).map fun _ => .bool true
  else if c = 'f' then (expectWord ['a', 'l', 's', 'e'] cs).map fun _ => .bool false
  else if c = '"' then (readString cs).map fun r => .text r.1
  else if c = '[' then .ok .sequence
  else if c = '\x7b' then .ok .map
  else if startsNumber c then
    match readNumeral .endOfText (c :: cs) with
    | .error p => .error p
    | .ok (n, _) => n.toNumber.map Number.found
  else .error .malformed

/-- The problem of a value of the wrong kind. -/
def wrongKind (expected : String) (c : Char) (cs : List Char) : Problem :=
  match foundAt c cs with
  | .ok found => .mismatch (.wrongKind found expected)
  | .error p => p

/-- Crosses the colon after a key. -/
def expectColon (cs : List Char) : Except Problem (List Char) :=
  match skipBlanks cs with
  | [] => .error .endOfText
  | c :: cs => if c = ':' then .ok cs else .error .malformed

theorem expectColon_shorter {cs rest : List Char} (h : expectColon cs = .ok rest) :
    rest.length < cs.length := by
  have hb := length_skipBlanks cs
  unfold expectColon at h
  split at h
  · cases h
  · rename_i hr
    rw [hr] at hb
    split at h
    · cases h
      exact hb
    · cases h

/-- Crosses the comma between two members and the quote of the next key, or only that quote
before the first member; at the end of the object crosses its close and answers `false`. -/
def nextKey (first : Bool) (cs : List Char) : Reading Bool :=
  match skipBlanks cs with
  | [] => .error .endOfText
  | c :: cs =>
    if c = '\x7d' then .ok (false, cs)
    else if first then if c = '"' then .ok (true, cs) else .error .malformed
    else if c = ',' then
      match skipBlanks cs with
      | [] => .error .endOfText
      | c :: cs => if c = '"' then .ok (true, cs) else .error .malformed
    else .error .malformed

theorem nextKey_shorter {first more : Bool} {cs rest : List Char}
    (h : nextKey first cs = .ok (more, rest)) : rest.length < cs.length := by
  have hb := length_skipBlanks cs
  unfold nextKey at h
  split at h
  · cases h
  · rename_i c r hr
    rw [hr] at hb
    simp only [List.length_cons] at hb
    have hb' := length_skipBlanks r
    repeat' split at h
    all_goals cases h
    all_goals simp_all
    all_goals omega

/-- Reads the members of an object up to its close; `seen` holds the fields that came already. -/
def readMembers (fields : List (Field S)) (seen : List String) (first : Bool) (acc : S)
    (cs : List Char) : Reading S :=
  match h : nextKey first cs with
  | .error p => .error p
  | .ok (false, rest) => .ok (acc, rest)
  | .ok (true, rest) =>
    match hs : readString rest with
    | .error p => .error p
    | .ok (key, rest₁) =>
      match fields.find? (·.key == key) with
      | some field =>
        if seen.contains key then .error (.mismatch (.duplicate key))
        else
          match hc : expectColon rest₁ with
          | .error p => .error p
          | .ok rest₂ =>
            match hv : field.reader.run rest₂ with
            | .error p => .error p
            | .ok (set, rest₃) =>
              have := nextKey_shorter h
              have := readString_shorter hs
              have := expectColon_shorter hc
              have := field.reader.shorter hv
              readMembers fields (key :: seen) false (set acc) rest₃
      | none =>
        match hc : expectColon rest₁ with
        | .error p => .error p
        | .ok rest₂ =>
          match hv : skipValue rest₂ with
          | .error p => .error p
          | .ok rest₃ =>
            have := nextKey_shorter h
            have := readString_shorter hs
            have := expectColon_shorter hc
            have := skipValue_shorter hv
            readMembers fields seen false acc rest₃
termination_by cs.length

/-- Crosses the comma between two elements; answers nothing before the close of the array. -/
def nextElement (first : Bool) (cs : List Char) : Except Problem (Option (List Char)) :=
  match skipBlanks cs with
  | [] => .error .endOfText
  | c :: rest =>
    if c = ']' then .ok none
    else if first then .ok (some (c :: rest))
    else if c = ',' then
      match skipBlanks rest with
      | [] => .error .endOfText
      | d :: rest => if d = ']' then .error .malformed else .ok (some (d :: rest))
    else .error .malformed

theorem nextElement_shorter {first : Bool} {cs rest : List Char}
    (h : nextElement first cs = .ok (some rest)) : rest.length ≤ cs.length := by
  have hb := length_skipBlanks cs
  unfold nextElement at h
  split at h
  · cases h
  · rename_i c r hr
    rw [hr] at hb
    simp only [List.length_cons] at hb
    have hb' := length_skipBlanks r
    repeat' split at h
    all_goals cases h
    all_goals simp_all
    all_goals omega

/-- Reads the elements of an array as the fields in their order, as far as there are any. -/
def readElements : List (Field S) → Bool → S → List Char → Reading S
  | [], _, acc, cs => .ok (acc, cs)
  | field :: fields, first, acc, cs =>
    match nextElement first cs with
    | .error p => .error p
    | .ok none => .ok (acc, cs)
    | .ok (some rest) =>
      match field.reader.run rest with
      | .error p => .error p
      | .ok (set, rest) => readElements fields false (set acc) rest

theorem readElements_shorter {fields : List (Field S)} {first : Bool} {acc a : S}
    {cs rest : List Char} (h : readElements fields first acc cs = .ok (a, rest)) :
    rest.length ≤ cs.length := by
  induction fields generalizing first acc cs with
  | nil =>
    cases h
    exact Nat.le_refl _
  | cons field fields ih =>
    unfold readElements at h
    split at h
    · cases h
    · cases h
      exact Nat.le_refl _
    · rename_i hn
      have h1 := nextElement_shorter hn
      split at h
      · cases h
      · rename_i hv
        have h2 := field.reader.shorter hv
        have h3 := ih h
        omega

/-- Crosses the close of an array. -/
def closeArray (cs : List Char) : Except Problem (List Char) :=
  match skipBlanks cs with
  | [] => .error .endOfText
  | c :: cs => if c = ']' then .ok cs else .error .malformed

theorem closeArray_shorter {cs rest : List Char} (h : closeArray cs = .ok rest) :
    rest.length < cs.length := by
  have hb := length_skipBlanks cs
  unfold closeArray at h
  split at h
  · cases h
  · rename_i hr
    rw [hr] at hb
    split at h
    · cases h
      exact hb
    · cases h

theorem readMembers_shorter {fields : List (Field S)} {seen : List String} {first : Bool}
    {acc a : S} {cs rest : List Char}
    (h : readMembers fields seen first acc cs = .ok (a, rest)) : rest.length < cs.length := by
  fun_induction readMembers fields seen first acc cs with
  | case1 => cases h
  | case2 =>
    rename_i hk
    cases h
    exact nextKey_shorter hk
  | case3 => cases h
  | case4 => cases h
  | case5 => cases h
  | case6 => cases h
  | case7 =>
    rename_i ih
    have := ih h
    omega
  | case8 => cases h
  | case9 => cases h
  | case10 =>
    rename_i ih
    have := ih h
    omega

/-- Reads a record, starting from its defaults. `expected` names the record in messages. -/
def readRecord (expected : String) (fields : List (Field S)) (defaults : S) (cs : List Char) :
    Reading S :=
  match skipBlanks cs with
  | [] => .error .endOfText
  | c :: cs =>
    if c = '[' then
      match readElements fields true defaults cs with
      | .error p => .error p
      | .ok (a, cs) =>
        match closeArray cs with
        | .error p => .error p
        | .ok cs => .ok (a, cs)
    else if c = '\x7b' then readMembers fields [] true defaults cs
    else .error (wrongKind expected c cs)

theorem readRecord_shorter {expected : String} {fields : List (Field S)} {defaults a : S}
    {cs rest : List Char} (h : readRecord expected fields defaults cs = .ok (a, rest)) :
    rest.length < cs.length := by
  have hb := length_skipBlanks cs
  unfold readRecord at h
  split at h
  · cases h
  · rename_i c r hr
    rw [hr] at hb
    simp only [List.length_cons] at hb
    split at h
    · split at h
      · cases h
      · rename_i he
        have h1 := readElements_shorter he
        split at h
        · cases h
        · rename_i hc
          have h2 := closeArray_shorter hc
          cases h
          omega
    · split at h
      · have := readMembers_shorter h
        omega
      · cases h

/-- The reader of a record. -/
def recordReader (expected : String) (fields : List (Field S)) (defaults : S) : Reader S :=
  ⟨readRecord expected fields defaults, readRecord_shorter⟩

/-- Reads a text value. -/
def readText (cs : List Char) : Reading String :=
  match skipBlanks cs with
  | [] => .error .endOfText
  | c :: cs => if c = '"' then readString cs else .error (wrongKind "a string" c cs)

theorem readText_shorter {cs rest : List Char} {s : String} (h : readText cs = .ok (s, rest)) :
    rest.length < cs.length := by
  have hb := length_skipBlanks cs
  unfold readText at h
  split at h
  · cases h
  · rename_i hr
    rw [hr] at hb
    simp only [List.length_cons] at hb
    split at h
    · have := readString_shorter h
      omega
    · cases h

def textReader : Reader String := ⟨readText, readText_shorter⟩

/-- Reads a natural number that fits a 64-bit word, called `expected` in messages. -/
def readWord (expected : String) (cs : List Char) : Reading Nat :=
  match skipBlanks cs with
  | [] => .error .endOfText
  | c :: cs =>
    if startsNumber c then
      match readNumeral .endOfText (c :: cs) with
      | .error p => .error p
      | .ok (n, rest) =>
        match n.toNumber with
        | .error p => .error p
        | .ok (.natural v) => .ok (v, rest)
        | .ok (.negative v) => .error (.mismatch (.wrongValue (.integer (-(v : Int))) expected))
        | .ok (.float sign x) => .error (.mismatch (.wrongKind (.float sign x) expected))
    else .error (wrongKind expected c cs)

theorem readWord_shorter {expected : String} {cs rest : List Char} {n : Nat}
    (h : readWord expected cs = .ok (n, rest)) : rest.length < cs.length := by
  have hb := length_skipBlanks cs
  unfold readWord at h
  split at h
  · cases h
  · rename_i hr
    rw [hr] at hb
    split at h
    · split at h
      · cases h
      · rename_i hn
        have h1 := readNumeral_shorter hn
        split at h
        · cases h
        · cases h
          omega
        · cases h
        · cases h
    · cases h

def wordReader (expected : String) : Reader Nat := ⟨readWord expected, readWord_shorter⟩

/-- Reads `null` as nothing, and anything else as a word. -/
def readWordOrNull (expected : String) (cs : List Char) : Reading (Option Nat) :=
  match skipBlanks cs with
  | [] => .error .endOfText
  | c :: rest =>
    if c = 'n' then
      match expectWord ['u', 'l', 'l'] rest with
      | .error p => .error p
      | .ok rest => .ok (none, rest)
    else
      match readWord expected (c :: rest) with
      | .error p => .error p
      | .ok (n, rest) => .ok (some n, rest)

theorem readWordOrNull_shorter {expected : String} {cs rest : List Char} {n : Option Nat}
    (h : readWordOrNull expected cs = .ok (n, rest)) : rest.length < cs.length := by
  have hb := length_skipBlanks cs
  unfold readWordOrNull at h
  split at h
  · cases h
  · rename_i hr
    rw [hr] at hb
    split at h
    · split at h
      · cases h
      · rename_i hw
        have h1 := expectWord_shorter hw
        cases h
        simp only [List.length_cons] at hb
        omega
    · split at h
      · cases h
      · rename_i hw
        have h1 := readWord_shorter hw
        cases h
        omega

def wordOrNullReader (expected : String) : Reader (Option Nat) :=
  ⟨readWordOrNull expected, readWordOrNull_shorter⟩

/-- A field read by `r` and set by `set`. -/
def Field.of {α : Type} (key : String) (r : Reader α) (set : α → S → S) : Field S where
  key := key
  reader :=
    { run := fun cs =>
        match r.run cs with
        | .error p => .error p
        | .ok (a, rest) => .ok (set a, rest)
      shorter := by
        intro cs rest f h
        split at h
        · cases h
        · rename_i hr
          cases h
          exact r.shorter hr }

/-- Reads a whole text as one value: only blanks may follow. -/
def readWhole {α : Type} (r : Reader α) (text : String) : Except Problem α :=
  match r.run text.toList with
  | .error p => .error p
  | .ok (a, rest) => if skipBlanks rest = [] then .ok a else .error .malformed

end HandleBridge.Json
