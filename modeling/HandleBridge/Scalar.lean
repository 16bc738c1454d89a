import HandleBridge.Event

/-
  What may cross the boundary. Only scalars do; a result that can fail is flattened to a scalar,
  and in the place of a failure goes the default value of its type, the sentinel.
-/

namespace HandleBridge

/-- A value that crosses the boundary as it is. Floating point numbers are kept as their bits. -/
inductive Scalar where
  | unit
  | bool (b : Bool)
  | char (c : Char)
  | int (n : Int)
  | float32 (bits : UInt32)
  | float64 (bits : UInt64)
  /-- Where something lies in linear memory; zero for nothing. -/
  | offset (n : Nat)
deriving DecidableEq

/-- The types of scalars, integers of all widths taken together. -/
inductive ScalarType where
  | unit
  | bool
  | char
  | int
  | float32
  | float64
  | pointer
deriving DecidableEq

/-- The default of a type, which stands for failure. -/
def ScalarType.sentinel : ScalarType → Scalar
  | unit => .unit
  | bool => .bool false
  | char => .char '\x00'
  | int => .int 0
  | float32 => .float32 0
  | float64 => .float64 0
  | pointer => .offset 0

/-- The offset that a pointer crosses as. -/
def toOffset (address : Nat) : Nat := address

/-- The text of a scalar: numbers in decimal, floating point numbers as their bits in
hexadecimal, characters by their code point. -/
def Scalar.text : Scalar → String
  | unit => "()"
  | bool b => if b then "true" else "false"
  | char c => "U+" ++ Text.hexUpper 4 c.toNat
  | int n => toString n
  | float32 bits => Text.hexPadded 8 bits.toNat
  | float64 bits => Text.hexPadded 16 bits.toNat
  | offset n => toString n

/-- A result in as many layers as it has: each may hold a value or tell that there is none. -/
inductive Layered (α : Type) where
  | bare (value : α)
  /-- An optional result that is there. -/
  | present (inner : Layered α)
  /-- An optional result that is not there. -/
  | absent
  /-- A result that succeeded. -/
  | succeeded (inner : Layered α)
  /-- A result that failed. -/
  | failed (message : String)
deriving DecidableEq

namespace Layered

variable {α : Type}

/-- Flattens a result. The outermost layer without a value decides; a failure is reported, an
absent value is not. -/
def cross (sentinel : α) : Layered α → α × List Event
  | bare value => (value, [])
  | present inner => cross sentinel inner
  | absent => (sentinel, [])
  | succeeded inner => cross sentinel inner
  | failed message => (sentinel, [.sentinelReturned message])

end Layered

end HandleBridge
