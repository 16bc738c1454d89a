/-
  What can go wrong at the boundary, by cause, and the wording of each cause.
-/

namespace HandleBridge

/-- A failure at the boundary. -/
inductive Fault where
  /-- The word names no live instance. -/
  | invalidHandle (raw : UInt32)
  /-- An allocation was refused. -/
  | outOfMemory (requested : Nat)
  /-- No further instance may live. -/
  | capacityExhausted (max : Nat)
  /-- A region reaches past the end of the memory. -/
  | outOfBounds (offset len memorySize : Nat)
  /-- The store is in use by a call that has not returned. -/
  | reentrant
deriving DecidableEq

namespace Fault

/-- The wording of a fault. -/
def message : Fault → String
  | invalidHandle raw => s!"invalid handle: {raw.toNat}"
  | outOfMemory requested => s!"out of memory allocating {requested} bytes"
  | capacityExhausted max => s!"handle capacity exhausted ({max} live instances)"
  | outOfBounds offset len size => s!"region {offset}+{len} outside linear memory of {size} bytes"
  | reentrant => "reentrant store access"

/-- The fault with its fields by name. -/
def report : Fault → String
  | invalidHandle raw => s!"InvalidHandle({raw.toNat})"
  | outOfMemory requested => s!"OutOfMemory \x7b requested: {requested} \x7d"
  | capacityExhausted max => s!"CapacityExhausted \x7b max: {max} \x7d"
  | outOfBounds offset len size =>
    s!"OutOfBounds \x7b offset: {offset}, len: {len}, memory_size: {size} \x7d"
  | reentrant => "Reentrant"

/-- Whether the cause is a lack of room, so that trying again later may succeed. -/
def isExhaustion : Fault → Bool
  | outOfMemory _ => true
  | capacityExhausted _ => true
  | _ => false

end Fault

end HandleBridge
