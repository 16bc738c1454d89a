import HandleBridge.Buffer

/-
  What a buffer holds, and what becomes of it when room is reserved and then filled.

  `Terminated` is the shape of every buffer of a 64-bit module: the content and one nul. A buffer
  that has it `Holds` its content at an address other than zero. Reserving gives the shape to zeros,
  and filling the room to the bytes written.

  Proved:
  * `allocate_of_granted`, `allocate_of_refused`: with 64-bit addresses no size wraps, so the
    allocator alone decides.
  * `reserve_of_granted`, `ofBytes_of_granted`: the buffers that are made.
  * `overwrite_push`, `overwrite_zeros`: bytes written over as many others are all that is left, and
    those written to the front of zeros leave the rest of them.
  * `Apart.not_covers`: the address of a buffer leads to no other that lies apart from it.
-/

namespace HandleBridge

namespace Bytes

theorem zeros_succ (n : Nat) : zeros (n + 1) = (zeros n).push 0 := by
  apply ByteArray.ext
  rw [data_zeros, ByteArray.data_push, data_zeros, Array.replicate_succ]

theorem zeros_add (m n : Nat) : zeros (m + n) = zeros m ++ zeros n := by
  apply ByteArray.ext
  rw [ByteArray.data_append, data_zeros, data_zeros, data_zeros,
    Array.replicate_append_replicate]

/-- Bytes that are written over as many others take their place. -/
theorem overwrite_append {old bytes rest : ByteArray} (hs : bytes.size = old.size) :
    overwrite (old ++ rest) 0 bytes = bytes ++ rest := by
  have hd : bytes.data.size = old.size := hs
  unfold overwrite
  rw [ByteArray.copySlice_eq_append, hd, hs, ByteArray.size_data, ByteArray.size_append,
    ByteArray.extract_same, ByteArray.empty_append]
  congr 1
  · rw [Nat.zero_add, ← hs]
    exact ByteArray.extract_zero_size
  · refine ByteArray.extract_append_eq_right ?_ ?_
    · omega
    · rfl

/-- Bytes that are written over the content of a buffer, as many as it has, take its place. -/
theorem overwrite_push {old bytes : ByteArray} (hs : bytes.size = old.size) (b : UInt8) :
    overwrite (old.push b) 0 bytes = bytes.push b := by
  rw [← ByteArray.append_toByteArray_singleton, ← ByteArray.append_toByteArray_singleton,
    overwrite_append hs]

/-- Bytes that are written to the front of zeros leave the rest of them. -/
theorem overwrite_zeros {n : Nat} {bytes : ByteArray} (hn : bytes.size ≤ n) :
    overwrite ((zeros n).push 0) 0 bytes = (bytes ++ zeros (n - bytes.size)).push 0 := by
  have hz : (zeros n).push 0 = zeros bytes.size ++ zeros (n - bytes.size + 1) := by
    rw [← zeros_succ, ← zeros_add]
    congr 1
    omega
  rw [hz, overwrite_append (size_zeros _).symm, zeros_succ,
    ← ByteArray.append_toByteArray_singleton, ← ByteArray.append_toByteArray_singleton,
    ByteArray.append_assoc]

end Bytes

namespace Buffer

variable {heap : Allocator} {n a : Nat} {bytes : ByteArray} {b : Buffer}

theorem toNat_le_maxContent (n : UInt32) : n.toNat ≤ maxContent :=
  Nat.le_sub_one_of_lt n.toNat_lt

theorem blockSize_of_le (hn : n ≤ maxContent) : blockSize 64 n = n + 1 := by
  unfold blockSize
  apply Nat.mod_eq_of_lt
  simp only [maxContent, UInt32.size] at hn
  simp only [Nat.shiftLeft_eq]
  omega

theorem allocate_of_granted (hn : n ≤ maxContent) (ha : heap (n + 1) = some a) :
    allocate heap n = .ok a := by
  have hh : ¬ 1 <<< (64 - 1) ≤ n + 1 := by
    simp only [maxContent, UInt32.size] at hn
    simp only [Nat.shiftLeft_eq]
    omega
  unfold allocate allocateAt
  rw [if_neg (Nat.not_lt.2 hn), blockSize_of_le hn, if_neg (Nat.succ_ne_zero n), if_neg hh, ha]

theorem allocate_of_refused (hn : n ≤ maxContent) (ha : heap (n + 1) = none) :
    allocate heap n = .error (.outOfMemory n) := by
  unfold allocate allocateAt
  rw [if_neg (Nat.not_lt.2 hn), blockSize_of_le hn, if_neg (Nat.succ_ne_zero n), ha]
  split <;> rfl

/-- The buffer has `bytes` as its content, and a nul behind it. -/
structure Terminated (b : Buffer) (bytes : ByteArray) : Prop where
  data_eq : b.data = bytes.push 0
  size_le : bytes.size ≤ maxContent

namespace Terminated

theorem size_eq (h : b.Terminated bytes) : b.data.size = bytes.size + 1 := by
  rw [h.data_eq, ByteArray.size_push]

theorem toNat_len (h : b.Terminated bytes) : b.len.toNat = bytes.size := by
  unfold len
  rw [h.size_eq, Nat.add_sub_cancel]
  apply UInt32.toNat_ofNat_of_lt'
  exact Nat.lt_succ_of_le h.size_le

theorem extract_eq (h : b.Terminated bytes) : b.data.extract 0 bytes.size = bytes := by
  rw [h.data_eq, ← ByteArray.append_toByteArray_singleton]
  exact ByteArray.extract_append_eq_left rfl

theorem bytes_eq (h : b.Terminated bytes) : b.bytes = bytes := by
  unfold Buffer.bytes
  rw [h.size_eq, Nat.add_sub_cancel, h.extract_eq]

theorem isEmpty_iff (h : b.Terminated bytes) : b.isEmpty = true ↔ bytes.size = 0 := by
  unfold isEmpty
  rw [h.size_eq, beq_iff_eq]
  omega

end Terminated

/-- The buffer has `bytes` as its content, in a block at some address other than zero. -/
structure Holds (b : Buffer) (bytes : ByteArray) : Prop where
  data_eq : b.data = bytes.push 0
  size_le : bytes.size ≤ maxContent
  address_ne : b.address ≠ 0

theorem Holds.terminated (h : b.Holds bytes) : b.Terminated bytes := ⟨h.data_eq, h.size_le⟩

theorem Holds.size_eq (h : b.Holds bytes) : b.data.size = bytes.size + 1 := h.terminated.size_eq

theorem Holds.toNat_len (h : b.Holds bytes) : b.len.toNat = bytes.size := h.terminated.toNat_len

theorem Holds.extract_eq (h : b.Holds bytes) : b.data.extract 0 bytes.size = bytes :=
  h.terminated.extract_eq

theorem Holds.write {old : ByteArray} (h : b.Holds old) (hs : bytes.size = old.size) :
    (b.write 0 bytes).Holds bytes where
  data_eq := by
    show Bytes.overwrite b.data 0 bytes = _
    rw [h.data_eq, Bytes.overwrite_push hs]
  size_le := by
    rw [hs]
    exact h.size_le
  address_ne := h.address_ne

theorem reserve_of_granted (hn : n ≤ maxContent) (ha : heap (n + 1) = some a) :
    reserve heap n = .ok ⟨a, (Bytes.zeros n).push 0⟩ := by
  have hr := allocate_of_granted hn ha
  unfold allocate at hr
  unfold reserve reserveAt
  rw [hr, blockSize_of_le hn, Bytes.zeros_succ]

theorem reserve_of_refused (hn : n ≤ maxContent) (ha : heap (n + 1) = none) :
    reserve heap n = .error (.outOfMemory n) := by
  have hr := allocate_of_refused hn ha
  unfold allocate at hr
  unfold reserve reserveAt
  rw [hr]

theorem ofBytes_of_granted (hn : bytes.size ≤ maxContent) (ha : heap (bytes.size + 1) = some a) :
    ofBytes heap bytes = .ok ⟨a, bytes.push 0⟩ := by
  unfold ofBytes
  rw [allocate_of_granted hn ha]

theorem holds_push (hn : bytes.size ≤ maxContent) (ha : a ≠ 0) : Holds ⟨a, bytes.push 0⟩ bytes :=
  ⟨rfl, hn, ha⟩

/-! ## Where buffers lie -/

/-- The blocks of two buffers share no byte. -/
def Apart (b c : Buffer) : Prop :=
  b.address + b.data.size ≤ c.address ∨ c.address + c.data.size ≤ b.address

theorem Apart.symm {b c : Buffer} (h : b.Apart c) : c.Apart b := Or.symm h

theorem Apart.not_covers {b c : Buffer} (h : b.Apart c) (hb : 0 < b.data.size) :
    c.covers b.address = false := by
  unfold covers
  rw [Bool.and_eq_false_iff, decide_eq_false_iff_not, decide_eq_false_iff_not]
  rcases h with h | h
  · left
    omega
  · right
    omega

theorem covers_address {b : Buffer} (hb : 0 < b.data.size) : b.covers b.address = true := by
  unfold covers
  rw [Bool.and_eq_true, decide_eq_true_eq, decide_eq_true_eq]
  omega

end Buffer

end HandleBridge
