/-
  Byte strings: zeros, writing into the middle, and 32-bit words in little-endian order.

  Proved: sizes, and that `zeros n` holds zeros only (`data_zeros`).
-/

namespace HandleBridge.Bytes

/-- `b` with `n` zeros behind it. -/
def pushZeros : Nat → ByteArray → ByteArray
  | 0, b => b
  | n + 1, b => pushZeros n (b.push 0)

/-- `n` zero bytes. -/
def zeros (n : Nat) : ByteArray := pushZeros n (ByteArray.emptyWithCapacity n)

theorem data_pushZeros (n : Nat) (b : ByteArray) :
    (pushZeros n b).data = b.data ++ Array.replicate n 0 := by
  induction n generalizing b with
  | zero => simp [pushZeros]
  | succ n ih =>
    have e : #[(0 : UInt8)] ++ Array.replicate n 0 = Array.replicate (n + 1) 0 :=
      Array.replicate_succ'.symm
    rw [pushZeros, ih, ByteArray.data_push, ← Array.append_singleton, Array.append_assoc, e]

theorem data_zeros (n : Nat) : (zeros n).data = Array.replicate n 0 := by
  rw [zeros, data_pushZeros]
  exact Array.empty_append

theorem size_zeros (n : Nat) : (zeros n).size = n := by
  rw [← ByteArray.size_data, data_zeros, Array.size_replicate]

/-- `memory` with `bytes` in the place of what was at `offset`. -/
def overwrite (memory : ByteArray) (offset : Nat) (bytes : ByteArray) : ByteArray :=
  bytes.copySlice 0 memory offset bytes.size

theorem size_overwrite {memory bytes : ByteArray} {offset : Nat}
    (h : offset + bytes.size ≤ memory.size) : (overwrite memory offset bytes).size = memory.size := by
  have hb : bytes.data.size = bytes.size := rfl
  have hm : memory.data.size = memory.size := rfl
  have : (overwrite memory offset bytes).data.size = memory.data.size := by
    simp [overwrite, ByteArray.copySlice]
    omega
  exact this

/-- The four bytes of a word, lowest first. -/
def ofWord (w : UInt32) : ByteArray :=
  ⟨#[w.toUInt8, (w >>> 8).toUInt8, (w >>> 16).toUInt8, (w >>> 24).toUInt8]⟩

/-- The word whose lowest byte is at `offset`; bytes past the end count as zero. -/
def wordAt (memory : ByteArray) (offset : Nat) : UInt32 :=
  let byte := fun i => (memory[offset + i]?.getD 0).toUInt32
  byte 0 ||| byte 1 <<< 8 ||| byte 2 <<< 16 ||| byte 3 <<< 24

end HandleBridge.Bytes
