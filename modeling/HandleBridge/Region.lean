import HandleBridge.Bytes
import HandleBridge.Fault

/-
  Regions of a linear memory: an offset and a length that may come from the other side and are
  therefore checked before a byte is touched. Offsets and lengths are 64-bit words; a region
  whose end does not fit a word lies outside every memory.

  Proved: the check asks exactly for `offset + len ≤ size` as whole numbers (`regionEnd?_eq_some`,
  `regionEnd?_eq_none`).
-/

namespace HandleBridge

/-- The end of a region, if the region lies inside a memory of `size` bytes. -/
def regionEnd? (offset len : UInt64) (size : Nat) : Option Nat :=
  let stop := offset + len
  if stop < offset then none
  else if stop.toNat ≤ size then some stop.toNat
  else none

/-- The fault of a region that does not lie inside. -/
def regionFault (offset len : UInt64) (size : Nat) : Fault :=
  .outOfBounds offset.toNat len.toNat size

/-- The bytes of a region. -/
def readRegion (memory : ByteArray) (offset len : UInt64) : Except Fault ByteArray :=
  match regionEnd? offset len memory.size with
  | some stop => .ok (memory.extract offset.toNat stop)
  | none => .error (regionFault offset len memory.size)

/-- The memory with `bytes` written at `offset`, if there is room for them. -/
def writeRegion (memory : ByteArray) (offset : UInt64) (bytes : ByteArray) :
    Except Fault ByteArray :=
  let len := UInt64.ofNat bytes.size
  match regionEnd? offset len memory.size with
  | some _ => .ok (Bytes.overwrite memory offset.toNat bytes)
  | none => .error (regionFault offset len memory.size)

theorem regionEnd?_eq_some {offset len : UInt64} {size : Nat} (hs : size < UInt64.size)
    (h : offset.toNat + len.toNat ≤ size) :
    regionEnd? offset len size = some (offset.toNat + len.toNat) := by
  have hsum : (offset + len).toNat = offset.toNat + len.toNat := by
    rw [UInt64.toNat_add]
    simp only [UInt64.size] at hs
    omega
  unfold regionEnd?
  simp only [UInt64.lt_iff_toNat_lt, hsum]
  rw [if_neg (by omega), if_pos h]

theorem regionEnd?_eq_none {offset len : UInt64} {size : Nat}
    (h : size < offset.toNat + len.toNat) : regionEnd? offset len size = none := by
  have ho := offset.toNat_lt
  have hl := len.toNat_lt
  have hsum : (offset + len).toNat = (offset.toNat + len.toNat) % 2 ^ 64 := UInt64.toNat_add _ _
  unfold regionEnd?
  simp only [UInt64.lt_iff_toNat_lt, hsum]
  by_cases hw : offset.toNat + len.toNat < 2 ^ 64
  · rw [Nat.mod_eq_of_lt hw, if_neg (by omega), if_neg (by omega)]
  · rw [if_pos (by omega)]

end HandleBridge
