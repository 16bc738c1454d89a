import HandleBridge.Scalar

/-
  The types of the results that exported functions have, and how a result crosses.

  A scalar crosses as it is, a pointer as its offset. An optional result and one that can fail
  cross as what they hold does, however deep that is nested. In the place of what is not there
  goes the default of the scalar type that the content crosses as, and a failure is reported.

  Proved: whoever knows of a result only in which layers it comes lets the same cross
  (`cross_layered`).
-/

namespace HandleBridge

namespace ScalarType

/-- The values of a scalar type. Floating point numbers are their bits, pointers addresses. -/
def Value : ScalarType → Type
  | unit => Unit
  | bool => Bool
  | char => Char
  | int => Int
  | float32 => UInt32
  | float64 => UInt64
  | pointer => Nat

/-- The form in which a value crosses. -/
def form : (t : ScalarType) → t.Value → Scalar
  | unit, () => .unit
  | bool, b => .bool b
  | char, c => .char c
  | int, n => .int n
  | float32, bits => .float32 bits
  | float64, bits => .float64 bits
  | pointer, address => .offset (toOffset address)

end ScalarType

/-- The types of results around the scalar type `t`, in any number of layers. -/
inductive ReturnType (t : ScalarType) : Type 1 where
  | bare
  | optional (inner : ReturnType t)
  /-- An error may be of any type whose values have a text. -/
  | fallible (ε : Type) (text : ε → String) (inner : ReturnType t)

namespace ReturnType

variable {t : ScalarType}

/-- The results of a type. -/
def Value : ReturnType t → Type
  | bare => t.Value
  | optional inner => Option inner.Value
  | fallible ε _ inner => Except ε inner.Value

/-- The type of the scalar that crosses, which each layer takes over from its content. -/
def crossesAs : ReturnType t → ScalarType
  | bare => t
  | optional inner => inner.crossesAs
  | fallible _ _ inner => inner.crossesAs

/-- The scalar that crosses for a result, and what there is to tell. -/
def cross : (r : ReturnType t) → r.Value → Scalar × List Event
  | bare, value => (t.form value, [])
  | optional inner, some value => inner.cross value
  | optional inner, none => (inner.crossesAs.sentinel, [])
  | fallible _ _ inner, .ok value => inner.cross value
  | fallible _ text inner, .error e =>
    (inner.crossesAs.sentinel, [.sentinelReturned (text e)])

/-- The layers of a result, with their types forgotten. -/
def layered : (r : ReturnType t) → r.Value → Layered Scalar
  | bare, value => .bare (t.form value)
  | optional inner, some value => .present (inner.layered value)
  | optional _, none => .absent
  | fallible _ _ inner, .ok value => .succeeded (inner.layered value)
  | fallible _ text _, .error e => .failed (text e)

theorem crossesAs_eq (r : ReturnType t) : r.crossesAs = t := by
  induction r with
  | bare => rfl
  | optional inner ih => exact ih
  | fallible ε text inner ih => exact ih

theorem cross_layered (r : ReturnType t) (v : r.Value) :
    (r.layered v).cross t.sentinel = r.cross v := by
  induction r with
  | bare => rfl
  | optional inner ih =>
    cases v with
    | none => rw [layered, cross, inner.crossesAs_eq, Layered.cross]
    | some value => exact ih value
  | fallible ε text inner ih =>
    cases v with
    | error e => rw [layered, cross, inner.crossesAs_eq, Layered.cross]
    | ok value => exact ih value

end ReturnType

end HandleBridge
