import HandleBridge.Json.Text

/-
  JSON numbers: their parts as written, and their value.

  A number without fraction and exponent whose value fits a 64-bit word (unsigned, or signed
  when negative) is an integer and is kept exactly. Every other number is floating point: as many
  leading digits as fit a word make the significand, which is then scaled by powers of ten, with
  a rounding at every step. `-0` is floating point too.
-/

namespace HandleBridge.Json

/-- The value of a decimal digit. -/
def digitValue? (c : Char) : Option Nat :=
  if '0' ≤ c && c ≤ '9' then some (c.toNat - '0'.toNat) else none

/-- The digits at the front, and the rest. -/
def takeDigits : List Char → List Nat × List Char
  | [] => ([], [])
  | c :: cs =>
    match digitValue? c with
    | some d => (d :: (takeDigits cs).1, (takeDigits cs).2)
    | none => ([], c :: cs)

theorem takeDigits_shorter (cs : List Char) :
    (takeDigits cs).1.length + (takeDigits cs).2.length = cs.length := by
  induction cs with
  | nil => rfl
  | cons c cs ih =>
    unfold takeDigits
    split
    · simp only [List.length_cons]
      omega
    · simp

/-- A number as it is written. -/
structure Numeral where
  negative : Bool
  whole : List Nat
  fraction : Option (List Nat)
  /-- Whether the exponent is negative, and its digits. -/
  exponent : Option (Bool × List Nat)
deriving DecidableEq

/-- At least one digit; `atEnd` is the problem of a text that ends before it. -/
def someDigits (atEnd : Problem) (cs : List Char) : Reading (List Nat) :=
  match takeDigits cs with
  | ([], []) => .error atEnd
  | ([], _ :: _) => .error .malformed
  | (d :: ds, rest) => .ok (d :: ds, rest)

/-- The digits before the point: a zero alone, or digits that start with another one. -/
def wholeDigits (atEnd : Problem) (cs : List Char) : Reading (List Nat) :=
  match someDigits atEnd cs with
  | .error p => .error p
  | .ok (ds, rest) =>
    match ds with
    | 0 :: _ :: _ => .error .malformed
    | _ => .ok (ds, rest)

/-- A point and digits, if there is a point. -/
def fractionDigits (atEnd : Problem) : List Char → Reading (Option (List Nat))
  | [] => .ok (none, [])
  | c :: cs =>
    if c = '.' then
      match someDigits atEnd cs with
      | .error p => .error p
      | .ok (ds, rest) => .ok (some ds, rest)
    else .ok (none, c :: cs)

/-- The sign of an exponent, if there is one. -/
def exponentSign : List Char → Bool × List Char
  | [] => (false, [])
  | c :: cs => if c = '+' then (false, cs) else if c = '-' then (true, cs) else (false, c :: cs)

/-- An exponent, if there is one. -/
def exponentDigits (atEnd : Problem) : List Char → Reading (Option (Bool × List Nat))
  | [] => .ok (none, [])
  | c :: cs =>
    if c = 'e' ∨ c = 'E' then
      match someDigits atEnd (exponentSign cs).2 with
      | .error p => .error p
      | .ok (ds, rest) => .ok (some ((exponentSign cs).1, ds), rest)
    else .ok (none, c :: cs)

/-- The rest of a number after its sign. -/
def unsignedNumeral (atEnd : Problem) (negative : Bool) (cs : List Char) : Reading Numeral :=
  match wholeDigits atEnd cs with
  | .error p => .error p
  | .ok (whole, cs) =>
    match fractionDigits atEnd cs with
    | .error p => .error p
    | .ok (fraction, cs) =>
      match exponentDigits atEnd cs with
      | .error p => .error p
      | .ok (exponent, cs) => .ok (⟨negative, whole, fraction, exponent⟩, cs)

/-- A number with its sign. -/
def readNumeral (atEnd : Problem) : List Char → Reading Numeral
  | [] => .error atEnd
  | c :: cs =>
    if c = '-' then unsignedNumeral atEnd true cs else unsignedNumeral atEnd false (c :: cs)

/-- Whether a number may start with `c`. -/
def startsNumber (c : Char) : Bool := c == '-' || (digitValue? c).isSome

theorem someDigits_shorter {atEnd : Problem} {cs rest : List Char} {ds : List Nat}
    (h : someDigits atEnd cs = .ok (ds, rest)) : rest.length < cs.length := by
  unfold someDigits at h
  have hl := takeDigits_shorter cs
  split at h
  · cases h
  · cases h
  · rename_i d ds' r ht
    cases h
    rw [ht] at hl
    simp only [List.length_cons] at hl
    omega

theorem wholeDigits_shorter {atEnd : Problem} {cs rest : List Char} {ds : List Nat}
    (h : wholeDigits atEnd cs = .ok (ds, rest)) : rest.length < cs.length := by
  unfold wholeDigits at h
  split at h
  · cases h
  · rename_i hs
    split at h
    · cases h
    · cases h
      exact someDigits_shorter hs

theorem fractionDigits_shorter {atEnd : Problem} {cs rest : List Char} {f : Option (List Nat)}
    (h : fractionDigits atEnd cs = .ok (f, rest)) : rest.length ≤ cs.length := by
  unfold fractionDigits at h
  split at h
  · cases h
    exact Nat.le_refl _
  · split at h
    · split at h
      · cases h
      · rename_i hs
        cases h
        exact Nat.le_succ_of_le (Nat.le_of_lt (someDigits_shorter hs))
    · cases h
      exact Nat.le_refl _

theorem exponentSign_shorter (cs : List Char) : (exponentSign cs).2.length ≤ cs.length := by
  cases cs with
  | nil => exact Nat.le_refl _
  | cons c cs =>
    simp only [exponentSign]
    split
    · exact Nat.le_succ _
    · split
      · exact Nat.le_succ _
      · exact Nat.le_refl _

theorem exponentDigits_shorter {atEnd : Problem} {cs rest : List Char}
    {e : Option (Bool × List Nat)} (h : exponentDigits atEnd cs = .ok (e, rest)) :
    rest.length ≤ cs.length := by
  unfold exponentDigits at h
  split at h
  · cases h
    exact Nat.le_refl _
  · rename_i c cs
    split at h
    · split at h
      · cases h
      · rename_i hs
        have h1 := someDigits_shorter hs
        have h2 := exponentSign_shorter cs
        cases h
        simp only [List.length_cons]
        omega
    · cases h
      exact Nat.le_refl _

theorem unsignedNumeral_shorter {atEnd : Problem} {negative : Bool} {cs rest : List Char}
    {n : Numeral} (h : unsignedNumeral atEnd negative cs = .ok (n, rest)) :
    rest.length < cs.length := by
  unfold unsignedNumeral at h
  split at h
  · cases h
  · rename_i hw
    have h1 := wholeDigits_shorter hw
    split at h
    · cases h
    · rename_i hf
      have h2 := fractionDigits_shorter hf
      split at h
      · cases h
      · rename_i he
        have h3 := exponentDigits_shorter he
        cases h
        omega

theorem readNumeral_shorter {atEnd : Problem} {cs rest : List Char} {n : Numeral}
    (h : readNumeral atEnd cs = .ok (n, rest)) : rest.length < cs.length := by
  unfold readNumeral at h
  split at h
  · cases h
  · split at h
    · exact Nat.lt_succ_of_lt (unsignedNumeral_shorter h)
    · exact unsignedNumeral_shorter h

/-! The value of a number. -/

/-- The largest 64-bit word. -/
def maxWord : Nat := UInt64.size - 1

/-- Takes digits onto `n` as long as the value fits a word; answers the value, how many digits it
took, and the digits that no longer fit. -/
def absorb (n : Nat) : List Nat → Nat × Nat × List Nat
  | [] => (n, 0, [])
  | d :: ds =>
    if n * 10 + d ≤ maxWord then
      let r := absorb (n * 10 + d) ds
      (r.1, r.2.1 + 1, r.2.2)
    else (n, 0, d :: ds)

/-- `x · 10^n`, or nothing if that is out of range. -/
def scaleUp (x : Decimal.Binary64) (n : Nat) : Option Decimal.Binary64 :=
  if n ≤ 308 then
    let y := x.mul (.powerOfTen n)
    if y.isFinite then some y else none
  else if x.isZero then some x
  else none

/-- `x / 10^n`, in steps of at most 308 places. -/
def scaleDown (x : Decimal.Binary64) (n : Nat) : Decimal.Binary64 :=
  if n ≤ 308 then x.div (.powerOfTen n)
  else if x.isZero then x
  else scaleDown (x.div (.powerOfTen 308)) (n - 308)
termination_by n

/-- The floating point number `significand · 10^e`, unless it is out of range. -/
def floatOfParts (significand : Nat) (e : Int) : Option Decimal.Binary64 :=
  if 0 ≤ e then scaleUp (.ofNat significand) e.toNat
  else some (scaleDown (.ofNat significand) (-e).toNat)

/-- The largest exponent that is looked at. -/
def maxWrittenExponent : Nat := 0x7fffffff

/-- A number by value. -/
inductive Number where
  /-- An integer that fits an unsigned 64-bit word. -/
  | natural (n : Nat)
  /-- A negative integer that fits a signed 64-bit word; `n` is its size. -/
  | negative (n : Nat)
  | float (negative : Bool) (magnitude : Decimal.Binary64)
deriving DecidableEq

namespace Numeral

/-- The value of decimal digits. -/
def value (ds : List Nat) : Nat := ds.foldl (fun n d => n * 10 + d) 0

/-- The significand, and the power of ten that it counts. -/
def significand (n : Numeral) : Nat × Int :=
  let w := absorb 0 n.whole
  match n.fraction with
  | none => (w.1, w.2.2.length)
  | some ds =>
    let f := absorb w.1 ds
    (f.1, (w.2.2.length : Int) - f.2.1)

/-- The number as floating point, unless it is out of range. -/
def toFloat? (n : Numeral) : Option Decimal.Binary64 :=
  let s := n.significand
  match n.exponent with
  | none => floatOfParts s.1 s.2
  | some (down, ds) =>
    let e := value ds
    if e ≤ maxWrittenExponent then floatOfParts s.1 (if down then s.2 - e else s.2 + e)
    else if s.1 = 0 || down then some .zero
    else none

/-- Whether the number is written without fraction and exponent. -/
def isWhole (n : Numeral) : Bool := n.fraction.isNone && n.exponent.isNone

/-- The value of a number; one that is out of range is malformed. -/
def toNumber (n : Numeral) : Except Problem Number :=
  let v := value n.whole
  if n.isWhole && !n.negative && v ≤ maxWord then .ok (.natural v)
  else if n.isWhole && n.negative && 1 ≤ v && v ≤ 0x8000000000000000 then .ok (.negative v)
  else
    match n.toFloat? with
    | some x => .ok (.float n.negative x)
    | none => .error .malformed

end Numeral

/-- What a number is called where something else was asked for. -/
def Number.found : Number → Found
  | .natural n => .integer n
  | .negative n => .integer (-(n : Int))
  | .float sign x => .float sign x

example : (⟨false, [1], none, some (false, [4, 0, 0])⟩ : Numeral).toFloat? = none := by
  decide +kernel

example : (⟨false, [1, 2], some [5], some (true, [1])⟩ : Numeral).toFloat? =
    some (.ofRatio 5 4) := by decide +kernel

end HandleBridge.Json
