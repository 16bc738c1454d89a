import HandleBridge.Region
import Mathlib.Tactic.Common

/-
  What is found in a memory after something was written into it.

  Everything about a write follows from what it leaves at each place (`getElem?_overwrite`): the
  bytes written inside their region, and what was there before outside. A word or a region that
  does not meet the bytes written is as before; the region written holds those bytes.

  Proved:
  * `extract_congr`, `wordAt_congr`: equal places make equal regions and equal words.
  * `wordAt_overwrite_ofWord`, `extract_overwrite_same`: what was written is read back.
  * `StandAt.eq_extract`, `Replaced.eq_overwrite`: what is said of every place fixes the bytes.
  * `readRegion_of_le`, `writeRegion_of_le`: a region inside the memory is served.
-/

namespace HandleBridge

namespace Bytes

variable {memory memory' bytes : ByteArray} {offset start stop i : Nat}

/-! ## Places -/

theorem getElem?_eq_data (b : ByteArray) (i : Nat) : b[i]? = b.data[i]? := rfl

theorem getElem?_of_size_le (h : bytes.size ≤ i) : bytes[i]? = none := Array.getElem?_eq_none h

/-- Bytes are known by what stands at each place. -/
theorem eq_of_getElem? (h : ∀ i : Nat, memory[i]? = bytes[i]?) : memory = bytes :=
  ByteArray.ext (Array.ext_getElem? h)

theorem getElem?_extract (b : ByteArray) (start stop i : Nat) : (b.extract start stop)[i]? =
    if i < min stop b.size - start then b[start + i]? else none := by
  rw [getElem?_eq_data, ByteArray.data_extract, Array.getElem?_extract]
  rfl

theorem getElem?_overwrite (h : offset + bytes.size ≤ memory.size) (i : Nat) :
    (overwrite memory offset bytes)[i]? =
      if offset ≤ i ∧ i < offset + bytes.size then bytes[i - offset]? else memory[i]? := by
  have hb : bytes.data.size = bytes.size := rfl
  have hm : memory.data.size = memory.size := rfl
  have h₁ : min offset memory.size - 0 = offset := by omega
  have h₂ : min bytes.size bytes.size - 0 = bytes.size := by omega
  have h₃ : min bytes.size (bytes.size - 0) = bytes.size := by omega
  simp only [getElem?_eq_data, overwrite, ByteArray.copySlice, Array.getElem?_append,
    Array.getElem?_extract, Array.size_append, Array.size_extract, hb, hm, h₁, h₂, h₃,
    Nat.zero_add]
  by_cases hi : i < offset
  · rw [if_pos (by omega), if_pos hi, if_pos hi, if_neg (by omega)]
  by_cases hj : i < offset + bytes.size
  · rw [if_pos hj, if_neg hi, if_pos (by omega), if_pos (by omega)]
  · have hr : ¬ (offset ≤ i ∧ i < offset + bytes.size) := fun h => hj h.2
    rw [if_neg hj, if_neg hr, Nat.add_sub_cancel' (Nat.le_of_not_lt hj)]
    split
    · rfl
    · rw [Array.getElem?_eq_none (by omega)]

theorem getElem?_overwrite_of_outside (h : offset + bytes.size ≤ memory.size)
    (hi : i < offset ∨ offset + bytes.size ≤ i) :
    (overwrite memory offset bytes)[i]? = memory[i]? := by
  rw [getElem?_overwrite h, if_neg (by omega)]

/-! ## Regions of bytes -/

theorem extract_congr (hs : memory'.size = memory.size)
    (hi : ∀ i, start ≤ i → i < stop → memory'[i]? = memory[i]?) :
    memory'.extract start stop = memory.extract start stop := by
  apply eq_of_getElem?
  intro i
  rw [getElem?_extract, getElem?_extract, hs]
  split
  · exact hi _ (by omega) (by omega)
  · rfl

theorem extract_overwrite_same (h : offset + bytes.size ≤ memory.size) :
    (overwrite memory offset bytes).extract offset (offset + bytes.size) = bytes := by
  apply eq_of_getElem?
  intro i
  rw [getElem?_extract, size_overwrite h]
  split
  · rw [getElem?_overwrite h, if_pos (by omega), Nat.add_sub_cancel_left]
  · rw [getElem?_of_size_le (by omega)]

theorem extract_overwrite_of_outside (h : offset + bytes.size ≤ memory.size)
    (ho : stop ≤ offset ∨ offset + bytes.size ≤ start) :
    (overwrite memory offset bytes).extract start stop = memory.extract start stop :=
  extract_congr (size_overwrite h) fun _ _ _ =>
    getElem?_overwrite_of_outside h (by omega)

/-- `bytes` stand in `memory` from `offset` on, none of them outside. -/
def StandAt (memory : ByteArray) (offset : Nat) (bytes : ByteArray) : Prop :=
  offset + bytes.size ≤ memory.size ∧ ∀ i < bytes.size, memory[offset + i]? = bytes[i]?

/-- `memory'` is `memory` with `bytes` at `offset`; all other places are as they were. -/
structure Replaced (memory : ByteArray) (offset : Nat) (bytes memory' : ByteArray) : Prop where
  size_eq : memory'.size = memory.size
  inside : StandAt memory' offset bytes
  outside : ∀ i, i < offset ∨ offset + bytes.size ≤ i → memory'[i]? = memory[i]?

theorem standAt_extract {len : Nat} (h : offset + len ≤ memory.size) :
    StandAt memory offset (memory.extract offset (offset + len)) ∧
      (memory.extract offset (offset + len)).size = len := by
  have hs : (memory.extract offset (offset + len)).size = len := by
    rw [ByteArray.size_extract]
    omega
  refine ⟨⟨by rw [hs]; exact h, fun i hi => ?_⟩, hs⟩
  rw [hs] at hi
  rw [getElem?_extract, if_pos (by omega)]

theorem replaced_overwrite (h : offset + bytes.size ≤ memory.size) :
    Replaced memory offset bytes (overwrite memory offset bytes) where
  size_eq := size_overwrite h
  inside := by
    refine ⟨by rw [size_overwrite h]; exact h, fun i hi => ?_⟩
    rw [getElem?_overwrite h, if_pos (by omega), Nat.add_sub_cancel_left]
  outside _ hi := getElem?_overwrite_of_outside h hi

theorem StandAt.eq_extract (h : StandAt memory offset bytes) :
    bytes = memory.extract offset (offset + bytes.size) := by
  obtain ⟨hb, hi⟩ := h
  apply eq_of_getElem?
  intro i
  rw [getElem?_extract]
  split
  · exact (hi i (by omega)).symm
  · exact getElem?_of_size_le (by omega)

theorem Replaced.fits (h : Replaced memory offset bytes memory') :
    offset + bytes.size ≤ memory.size := by
  rw [← h.size_eq]
  exact h.inside.1

theorem Replaced.eq_overwrite (h : Replaced memory offset bytes memory') :
    memory' = overwrite memory offset bytes := by
  apply eq_of_getElem?
  intro i
  rw [getElem?_overwrite h.fits]
  split
  · rename_i hi
    rw [← h.inside.2 _ (show i - offset < bytes.size by omega), Nat.add_sub_cancel' hi.1]
  · exact h.outside i (by omega)

/-! ## Words -/

theorem wordAt_congr (hi : ∀ k < 4, memory'[i + k]? = memory[i + k]?) :
    wordAt memory' i = wordAt memory i := by
  unfold wordAt
  simp only [hi _ (show 0 < 4 by decide), hi _ (show 1 < 4 by decide), hi _ (show 2 < 4 by decide),
    hi _ (show 3 < 4 by decide)]

theorem wordAt_overwrite_of_outside (h : offset + bytes.size ≤ memory.size)
    (ho : i + 4 ≤ offset ∨ offset + bytes.size ≤ i) :
    wordAt (overwrite memory offset bytes) i = wordAt memory i :=
  wordAt_congr fun _ _ => getElem?_overwrite_of_outside h (by omega)

theorem getLsbD_mod_256 (x : BitVec 32) (i : Nat) :
    (x % 256#32).getLsbD i = (decide (i < 8) && x.getLsbD i) := by
  rw [BitVec.getLsbD, BitVec.toNat_umod]
  exact Nat.testBit_mod_two_pow x.toNat 8 i

theorem word_of_bytes (w : UInt32) :
    w.toUInt8.toUInt32 ||| (w >>> 8).toUInt8.toUInt32 <<< 8 |||
      (w >>> 16).toUInt8.toUInt32 <<< 16 ||| (w >>> 24).toUInt8.toUInt32 <<< 24 = w := by
  apply UInt32.toBitVec_inj.1
  apply BitVec.eq_of_getLsbD_eq
  intro i hi
  simp [getLsbD_mod_256]
  -- each bit of a word lies in exactly one of its four bytes
  by_cases h8 : i < 8
  · simp [h8, show i < 16 by omega, show i < 24 by omega]
  by_cases h16 : i < 16
  · simp [h8, h16, show i < 24 by omega, hi, show i - 8 < 8 by omega, show 8 + (i - 8) = i by omega]
  by_cases h24 : i < 24
  · have : ¬ i - 8 < 8 := by omega
    simp [h8, h16, h24, hi, this, show i - 16 < 8 by omega, show 16 + (i - 16) = i by omega]
  · have : ¬ i - 8 < 8 := by omega
    have : ¬ i - 16 < 8 := by omega
    simp [*, show i - 24 < 8 by omega, show 24 + (i - 24) = i by omega]

theorem size_ofWord (w : UInt32) : (ofWord w).size = 4 := rfl

theorem wordAt_overwrite_ofWord (w : UInt32) (h : offset + 4 ≤ memory.size) :
    wordAt (overwrite memory offset (ofWord w)) offset = w := by
  have hk : ∀ k < 4, (overwrite memory offset (ofWord w))[offset + k]? = (ofWord w)[k]? := by
    intro k hk
    rw [getElem?_overwrite h, if_pos ⟨Nat.le_add_right _ _, Nat.add_lt_add_left hk _⟩, Nat.add_sub_cancel_left]
  unfold wordAt
  simp only [hk _ (show 0 < 4 by decide), hk _ (show 1 < 4 by decide), hk _ (show 2 < 4 by decide),
    hk _ (show 3 < 4 by decide)]
  exact word_of_bytes w

theorem getD_zeros (n i : Nat) : (zeros n)[i]?.getD 0 = 0 := by
  rw [getElem?_eq_data, data_zeros, Array.getElem?_replicate]
  split <;> rfl

theorem wordAt_zeros (n i : Nat) : wordAt (zeros n) i = 0 := by
  unfold wordAt
  simp only [getD_zeros]
  rfl

end Bytes

/-! ## Regions under check -/

variable {memory bytes : ByteArray} {offset len : UInt64}

theorem readRegion_of_le (hm : memory.size < UInt64.size)
    (h : offset.toNat + len.toNat ≤ memory.size) :
    readRegion memory offset len =
      .ok (memory.extract offset.toNat (offset.toNat + len.toNat)) := by
  unfold readRegion
  rw [regionEnd?_eq_some hm h]

theorem writeRegion_of_le (hm : memory.size < UInt64.size)
    (h : offset.toNat + bytes.size ≤ memory.size) :
    writeRegion memory offset bytes = .ok (Bytes.overwrite memory offset.toNat bytes) := by
  have hb : (UInt64.ofNat bytes.size).toNat = bytes.size :=
    UInt64.toNat_ofNat_of_lt' (by omega)
  have he := regionEnd?_eq_some hm (by rw [hb]; exact h : offset.toNat + (UInt64.ofNat bytes.size).toNat ≤ memory.size)
  unfold writeRegion
  dsimp only
  rw [he]

end HandleBridge
