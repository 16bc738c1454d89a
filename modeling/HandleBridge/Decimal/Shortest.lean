import HandleBridge.Decimal.Binary64

/-
  The shortest decimal that reads back as a given binary floating point number.

  The decimals that read back are those in the interval of values that round to the number; its
  ends belong to it when the mantissa is even. For one digit, two digits, and so on, the two
  neighbours of the number on that decimal grid are tried; the first grid with a hit wins, and
  of two hits the nearer.
-/

namespace HandleBridge.Decimal

/-- `digits · 10^exponent`. -/
structure Scientific where
  digits : Nat
  exponent : Int
deriving DecidableEq

namespace Binary64

/-- The power of ten at or below a positive value. -/
def decimalExponent (x : Binary64) : Int :=
  let num := x.ratio.1
  let den := x.ratio.2
  if den ≤ num then ((Nat.toDigits 10 (num / den)).length : Int) - 1
  else
    let d := (Nat.toDigits 10 (den / num)).length
    if den ≤ num * Nat.pow 10 (d - 1) then -((d : Int) - 1) else -(d : Int)

/-- Four times the ends of the interval that rounds to `x`, in units of `2^x.exponent`. -/
def quarterBounds (x : Binary64) : Nat × Nat :=
  let below := if x.mantissa = leastFull && x.exponent != minExponent then 1 else 2
  (4 * x.mantissa - below, 4 * x.mantissa + 2)

/-- Numerator and denominator of `num / den · 10^e`. -/
def tenfold (num den : Nat) (e : Int) : Nat × Nat :=
  if 0 ≤ e then (num * Nat.pow 10 e.toNat, den) else (num, den * Nat.pow 10 (-e).toNat)

/-- Whether `digits · 10^e` rounds to `x`. -/
def readsBack (x : Binary64) (digits : Nat) (e : Int) : Bool :=
  let unit := scaled 1 4 (-x.exponent)
  let value := tenfold digits 1 e
  let low := (quarterBounds x).1 * unit.1 * value.2
  let high := (quarterBounds x).2 * unit.1 * value.2
  let mid := value.1 * unit.2
  if x.mantissa % 2 = 0 then low ≤ mid && mid ≤ high else low < mid && mid < high

/-- The decimal of `n` digits that reads back, the nearer one if there are two. -/
def withDigits? (x : Binary64) (n : Nat) : Option Scientific :=
  let e := decimalExponent x - (n : Int) + 1
  let s := tenfold x.ratio.1 x.ratio.2 (-e)
  let below := s.1 / s.2
  let upNearer := s.2 < 2 * (s.1 % s.2) || (s.2 == 2 * (s.1 % s.2) && below % 2 == 1)
  let lowHit := readsBack x below e
  let highHit := readsBack x (below + 1) e
  if lowHit && !(highHit && upNearer) then some ⟨below, e⟩
  else if highHit then some ⟨below + 1, e⟩
  else none

/-- The first of `n, n + 1, …` digits that suffice, looking at `more` counts. -/
def shortestFrom (x : Binary64) : Nat → Nat → Scientific
  | 0, n => ⟨x.ratio.1 / x.ratio.2, n⟩
  | more + 1, n =>
    match withDigits? x n with
    | some s => s
    | none => shortestFrom x more (n + 1)

/-- The shortest decimal that reads back as the positive number `x`; 17 digits always do. -/
def shortest (x : Binary64) : Scientific := shortestFrom x 17 1

end Binary64

/-- How a decimal is laid out: between two powers of ten without an exponent, and always with a
point there; elsewhere with a signed exponent. -/
structure Layout where
  leastPositional : Int
  mostPositional : Int

namespace Layout

/-- The decimal without the zeros at its end. -/
def trim : Nat → Scientific → Scientific
  | 0, s => s
  | fuel + 1, s =>
    if s.digits != 0 && s.digits % 10 == 0 then trim fuel ⟨s.digits / 10, s.exponent + 1⟩ else s

/-- The text of a positive decimal. -/
def text (l : Layout) (s : Scientific) : String :=
  let s := trim 20 s
  let ds := Nat.toDigits 10 s.digits
  let point : Int := ds.length + s.exponent
  let top := point - 1
  if l.leastPositional ≤ top && top ≤ l.mostPositional then
    if 0 ≤ s.exponent then String.ofList (ds ++ List.replicate s.exponent.toNat '0' ++ ['.', '0'])
    else if 0 < point then
      String.ofList (ds.take point.toNat ++ ['.'] ++ ds.drop point.toNat)
    else String.ofList (['0', '.'] ++ List.replicate (-point).toNat '0' ++ ds)
  else
    let fraction := if ds.length ≤ 1 then [] else '.' :: ds.drop 1
    let e := Nat.toDigits 10 top.natAbs
    let sign := if top < 0 then '-' else '+'
    String.ofList (ds.take 1 ++ fraction ++ ['e', sign] ++ e)

end Layout

/-- Numbers in messages: positional from 0.00001 to below 10^16. -/
def messageLayout : Layout := ⟨-5, 15⟩

/-- The text of a signed floating point number. -/
def numberText (negative : Bool) (x : Binary64) : String :=
  (if negative then "-" else "") ++
    (if x.isZero then "0.0" else messageLayout.text x.shortest)

example : numberText false (.ofNat 18446744073709551616) = "1.8446744073709552e+19" := by
  decide +kernel

example : numberText true .zero = "-0.0" ∧ numberText false (.ofRatio 1 100) = "0.01" ∧
    numberText false (.ofNat 1000) = "1000.0" ∧
    numberText false (.ofRatio 5 2) = "2.5" ∧
    numberText true (.ofNat 9223372036854775809) = "-9.223372036854776e+18" ∧
    numberText false (.ofNat (10 ^ 26)) = "1e+26" ∧
    numberText false (.ofRatio 1 (2 ^ 1074)) = "5e-324" ∧
    numberText true (.ofRatio 1 400000) = "-2.5e-6" := by
  decide +kernel

end HandleBridge.Decimal
