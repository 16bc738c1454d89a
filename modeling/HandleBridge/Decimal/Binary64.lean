/-
  Magnitudes of 64-bit binary floating point numbers, and rounding to them.

  A magnitude is `mantissa · 2^exponent` with a mantissa of at most 53 bits; the exponent is as
  small as possible, but not below -1074. All arithmetic is exact on natural numbers, followed
  by one rounding to the nearest magnitude, where a tie goes to the even mantissa.
-/

namespace HandleBridge.Decimal

/-- The value `mantissa · 2^exponent`. -/
structure Binary64 where
  mantissa : Nat
  exponent : Int
deriving DecidableEq

namespace Binary64

/-- The least exponent. -/
def minExponent : Int := -1074

/-- The exponent of the largest finite magnitudes. -/
def maxExponent : Int := 971

/-- The least mantissa of 53 bits. -/
def leastFull : Nat := 0x10000000000000

def zero : Binary64 := ⟨0, minExponent⟩

def isZero (x : Binary64) : Bool := x.mantissa == 0

/-- Whether the magnitude is within the range of finite numbers. -/
def isFinite (x : Binary64) : Bool := x.exponent ≤ maxExponent

/-- Numerator and denominator of `num / den / 2^e`. -/
def scaled (num den : Nat) (e : Int) : Nat × Nat :=
  if 0 ≤ e then (num, den <<< e.toNat) else (num <<< (-e).toNat, den)

/-- The whole number nearest to `num / den`, a tie going to the even one. -/
def nearestEven (num den : Nat) : Nat :=
  let q := num / den
  let twice := 2 * (num % den)
  if twice < den then q
  else if den < twice then q + 1
  else if q % 2 = 0 then q
  else q + 1

/-- The exponent at which `num / den` has 53 bits before the point, or the least one. -/
def exponentFor (num den : Nat) : Int :=
  let guess : Int := num.log2 - den.log2 - 52
  let s := scaled num den guess
  let fitted := if s.1 / s.2 < leastFull then guess - 1 else guess
  if fitted < minExponent then minExponent else fitted

/-- The magnitude nearest to `num / den`. -/
def ofRatio (num den : Nat) : Binary64 :=
  if num = 0 then zero
  else
    let e := exponentFor num den
    let s := scaled num den e
    let m := nearestEven s.1 s.2
    if m = 2 * leastFull then ⟨leastFull, e + 1⟩ else ⟨m, e⟩

/-- The magnitude nearest to a whole number. -/
def ofNat (n : Nat) : Binary64 := ofRatio n 1

/-- The numerator and denominator of the value. -/
def ratio (x : Binary64) : Nat × Nat := scaled x.mantissa 1 (-x.exponent)

/-- The magnitude nearest to the product. -/
def mul (x y : Binary64) : Binary64 :=
  ofRatio (x.ratio.1 * y.ratio.1) (x.ratio.2 * y.ratio.2)

/-- The magnitude nearest to the quotient. -/
def div (x y : Binary64) : Binary64 :=
  ofRatio (x.ratio.1 * y.ratio.2) (x.ratio.2 * y.ratio.1)

/-- The magnitude nearest to a power of ten. -/
def powerOfTen (n : Nat) : Binary64 := ofNat (Nat.pow 10 n)

/-- The 64 bits of the number, with the sign bit clear. -/
def toBits (x : Binary64) : Nat :=
  if x.mantissa < leastFull then x.mantissa
  else (x.exponent + 1075).toNat * leastFull + (x.mantissa - leastFull)

example : (ofRatio 43 2).toBits = 0x4035800000000000 := by decide +kernel

example : (ofNat 9007199254740993).toBits = 0x4340000000000000 := by decide +kernel

example : (div (ofNat 1) (powerOfTen 1)).toBits = 0x3fb999999999999a := by decide +kernel

example : (mul (ofNat 17976931348623157) (powerOfTen 292)).isFinite = true ∧
    (mul (ofNat 2) (powerOfTen 308)).isFinite = false := by decide +kernel

end Binary64

end HandleBridge.Decimal
