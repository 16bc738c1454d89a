import HandleBridge.Host
import HandleBridge.Proofs.Region

/-
  The host with a guest of which nothing is known.

  Such a guest answers any word, may change its memory and its state in every call, may make its
  memory larger or smaller, and may trap. Whatever it does, a read or a write of the host ends in
  one of the ways listed in `ReadOutcome` and `WriteOutcome`. Each way says what the guest
  answered, which fault or bytes the caller gets, and what machine is left: always the one that
  the last call into the guest left, except where a write succeeds, and there only the bytes of
  the region differ, all of which lie inside the memory of that moment.

  Proved:
  * `readRegion_words`, `writeRegion_word`: the check of a region that a guest names.
  * `read_of_outcome`, `exists_readOutcome`, and the same of writes: a read ends in a way listed
    exactly if the guest answers as it says, and the list leaves none out.
  * `copies_stay_inside`: both, for every guest, handle and payload.
-/

namespace HandleBridge

/-! ## Regions that a guest names -/

variable {memory bytes : ByteArray} {offset len : UInt32}

/-- Offset and length of a guest are 32-bit words, so their sum never wraps. -/
theorem regionEnd?_of_small {offset len : UInt64} {size : Nat}
    (h : offset.toNat + len.toNat < UInt64.size) : regionEnd? offset len size =
      if offset.toNat + len.toNat ≤ size then some (offset.toNat + len.toNat) else none := by
  have hsum : (offset + len).toNat = offset.toNat + len.toNat := by
    rw [UInt64.toNat_add]
    exact Nat.mod_eq_of_lt h
  unfold regionEnd?
  simp only [UInt64.lt_iff_toNat_lt, hsum]
  rw [if_neg (by omega)]

theorem toNat_ofNat_size_of_lt (h : bytes.size < UInt32.size) :
    (UInt64.ofNat bytes.size).toNat = bytes.size :=
  UInt64.toNat_ofNat_of_lt' (Nat.lt_trans h (by decide))

theorem readRegion_words : readRegion memory offset.toUInt64 len.toUInt64 =
    if offset.toNat + len.toNat ≤ memory.size then
      .ok (memory.extract offset.toNat (offset.toNat + len.toNat))
    else .error (.outOfBounds offset.toNat len.toNat memory.size) := by
  have ho := offset.toNat_lt
  have hl := len.toNat_lt
  unfold readRegion
  rw [regionEnd?_of_small (by simp only [UInt32.toNat_toUInt64, UInt64.size]; omega)]
  simp only [UInt32.toNat_toUInt64]
  split <;> rename_i he <;> split at he <;> cases he
  · rw [if_pos ‹_›]
  · rw [if_neg ‹_›, regionFault, UInt32.toNat_toUInt64, UInt32.toNat_toUInt64]

theorem writeRegion_word (h : bytes.size < UInt32.size) :
    writeRegion memory offset.toUInt64 bytes =
      if offset.toNat + bytes.size ≤ memory.size then
        .ok (Bytes.overwrite memory offset.toNat bytes)
      else .error (.outOfBounds offset.toNat bytes.size memory.size) := by
  have ho := offset.toNat_lt
  have hb := toNat_ofNat_size_of_lt h
  simp only [UInt32.size] at h
  unfold writeRegion
  dsimp only
  rw [regionEnd?_of_small (by rw [hb, UInt32.toNat_toUInt64]; simp only [UInt64.size]; omega), hb]
  simp only [UInt32.toNat_toUInt64]
  split <;> rename_i he <;> split at he <;> cases he
  · rw [if_pos ‹_›]
  · rw [if_neg ‹_›, regionFault, hb, UInt32.toNat_toUInt64]

namespace Host

variable {σ : Type}

/-! ## How a read and a write end -/

/-- How a read may end, and the machine that it leaves. -/
inductive ReadOutcome (h : Host σ) (handle : UInt32) :
    Except HostFault ByteArray → Guest.Machine σ → Prop where
  | lenTrapped {trap m logs} : h.guest.len handle h.machine = ⟨.error trap, m, logs⟩ →
      ReadOutcome h handle (.error (.executing h.exports.len trap)) m
  | ptrTrapped {n m logs trap m' logs'} : h.guest.len handle h.machine = ⟨.ok n, m, logs⟩ →
      h.guest.ptr handle m = ⟨.error trap, m', logs'⟩ →
      ReadOutcome h handle (.error (.executing h.exports.ptr trap)) m'
  | nowhere {n m logs m' logs'} : h.guest.len handle h.machine = ⟨.ok n, m, logs⟩ →
      h.guest.ptr handle m = ⟨.ok 0, m', logs'⟩ →
      ReadOutcome h handle (.error (.boundary (.invalidHandle handle))) m'
  | copied {n m logs offset m' logs' bytes} : h.guest.len handle h.machine = ⟨.ok n, m, logs⟩ →
      h.guest.ptr handle m = ⟨.ok offset, m', logs'⟩ → offset ≠ 0 →
      bytes.size = n.toNat → Bytes.StandAt m'.memory offset.toNat bytes →
      ReadOutcome h handle (.ok bytes) m'
  | outside {n m logs offset m' logs'} : h.guest.len handle h.machine = ⟨.ok n, m, logs⟩ →
      h.guest.ptr handle m = ⟨.ok offset, m', logs'⟩ → offset ≠ 0 →
      m'.memory.size < offset.toNat + n.toNat →
      ReadOutcome h handle
        (.error (.boundary (.outOfBounds offset.toNat n.toNat m'.memory.size))) m'

/-- How a write may end, and the machine that it leaves. -/
inductive WriteOutcome (h : Host σ) (handle : UInt32) (bytes : ByteArray) :
    Except HostFault Unit → Guest.Machine σ → Prop where
  /-- The guest was not called. -/
  | tooLong : UInt32.size ≤ bytes.size →
      WriteOutcome h handle bytes (.error (.boundary (.outOfMemory bytes.size))) h.machine
  | reserveTrapped {trap m logs} : bytes.size < UInt32.size →
      h.guest.reserve handle (UInt32.ofNat bytes.size) h.machine = ⟨.error trap, m, logs⟩ →
      WriteOutcome h handle bytes (.error (.executing h.exports.reserve trap)) m
  | ptrTrapped {m logs trap m' logs'} : bytes.size < UInt32.size →
      h.guest.reserve handle (UInt32.ofNat bytes.size) h.machine = ⟨.ok 0, m, logs⟩ →
      h.guest.ptr handle m = ⟨.error trap, m', logs'⟩ →
      WriteOutcome h handle bytes (.error (.executing h.exports.ptr trap)) m'
  | nowhere {m logs m' logs'} : bytes.size < UInt32.size →
      h.guest.reserve handle (UInt32.ofNat bytes.size) h.machine = ⟨.ok 0, m, logs⟩ →
      h.guest.ptr handle m = ⟨.ok 0, m', logs'⟩ →
      WriteOutcome h handle bytes (.error (.boundary (.invalidHandle handle))) m'
  | refused {m logs old m' logs'} : bytes.size < UInt32.size →
      h.guest.reserve handle (UInt32.ofNat bytes.size) h.machine = ⟨.ok 0, m, logs⟩ →
      h.guest.ptr handle m = ⟨.ok old, m', logs'⟩ → old ≠ 0 →
      WriteOutcome h handle bytes (.error (.boundary (.outOfMemory bytes.size))) m'
  | copied {offset m logs memory} : bytes.size < UInt32.size →
      h.guest.reserve handle (UInt32.ofNat bytes.size) h.machine = ⟨.ok offset, m, logs⟩ →
      offset ≠ 0 → Bytes.Replaced m.memory offset.toNat bytes memory →
      WriteOutcome h handle bytes (.ok ()) ⟨memory, m.state⟩
  | outside {offset m logs} : bytes.size < UInt32.size →
      h.guest.reserve handle (UInt32.ofNat bytes.size) h.machine = ⟨.ok offset, m, logs⟩ →
      offset ≠ 0 → m.memory.size < offset.toNat + bytes.size →
      WriteOutcome h handle bytes
        (.error (.boundary (.outOfBounds offset.toNat bytes.size m.memory.size))) m

theorem read_of_outcome {h : Host σ} {handle : UInt32} {result : Except HostFault ByteArray}
    {machine : Guest.Machine σ} (o : ReadOutcome h handle result machine) :
    (h.read handle).result = result ∧ (h.read handle).state.machine = machine := by
  unfold read andThen len ptr call
  cases o with
  | lenTrapped hl => simp only [hl, Except.mapError, and_self]
  | ptrTrapped hl hp => simp only [hl, hp, Except.mapError, and_self]
  | nowhere hl hp =>
    simp only [hl, hp, Except.mapError, if_true]
    exact ⟨rfl, rfl⟩
  | copied hl hp ho hs hi =>
    simp only [hl, hp, Except.mapError]
    rw [if_neg ho, readRegion_words, if_pos (by rw [← hs]; exact hi.1), ← hs, ← hi.eq_extract]
    exact ⟨rfl, rfl⟩
  | outside hl hp ho hb =>
    simp only [hl, hp, Except.mapError]
    rw [if_neg ho, readRegion_words, if_neg (Nat.not_le.2 hb)]
    exact ⟨rfl, rfl⟩

/-- The ways listed leave none out. -/
theorem exists_readOutcome (h : Host σ) (handle : UInt32) :
    ∃ result machine, ReadOutcome h handle result machine := by
  rcases hl : h.guest.len handle h.machine with ⟨trap | n, m, logs⟩
  · exact ⟨_, _, .lenTrapped hl⟩
  rcases hp : h.guest.ptr handle m with ⟨trap | offset, m', logs'⟩
  · exact ⟨_, _, .ptrTrapped hl hp⟩
  by_cases ho : offset = 0
  · subst ho
    exact ⟨_, _, .nowhere hl hp⟩
  by_cases hb : offset.toNat + n.toNat ≤ m'.memory.size
  · obtain ⟨hi, hs⟩ := Bytes.standAt_extract hb
    exact ⟨_, _, .copied hl hp ho hs hi⟩
  · exact ⟨_, _, .outside hl hp ho (Nat.lt_of_not_le hb)⟩

theorem readOutcome_iff {h : Host σ} {handle : UInt32} {result : Except HostFault ByteArray}
    {machine : Guest.Machine σ} : ReadOutcome h handle result machine ↔
      (h.read handle).result = result ∧ (h.read handle).state.machine = machine := by
  refine ⟨read_of_outcome, fun ⟨hr, hm⟩ => ?_⟩
  obtain ⟨result', machine', o⟩ := exists_readOutcome h handle
  obtain ⟨rfl, rfl⟩ := read_of_outcome o
  rwa [hr, hm] at o

theorem write_of_outcome {h : Host σ} {handle : UInt32} {bytes : ByteArray}
    {result : Except HostFault Unit} {machine : Guest.Machine σ}
    (o : WriteOutcome h handle bytes result machine) :
    (h.write handle bytes).result = result ∧ (h.write handle bytes).state.machine = machine := by
  unfold write
  cases o with
  | tooLong hb =>
    rw [if_pos hb]
    exact ⟨rfl, rfl⟩
  | reserveTrapped hb hr =>
    rw [if_neg (Nat.not_le.2 hb)]
    simp only [andThen, reserve, call, hr, Except.mapError, and_self]
  | ptrTrapped hb hr hp =>
    rw [if_neg (Nat.not_le.2 hb)]
    simp only [andThen, reserve, ptr, call, hr, hp, Except.mapError, if_true, and_self]
  | nowhere hb hr hp =>
    rw [if_neg (Nat.not_le.2 hb)]
    simp only [andThen, reserve, ptr, call, hr, hp, Except.mapError, if_true, refusal]
    exact ⟨rfl, rfl⟩
  | refused hb hr hp ho =>
    rw [if_neg (Nat.not_le.2 hb)]
    simp only [andThen, reserve, ptr, call, hr, hp, Except.mapError, if_true, refusal, if_neg ho]
    exact ⟨rfl, rfl⟩
  | copied hb hr ho hi =>
    rw [if_neg (Nat.not_le.2 hb)]
    simp only [andThen, reserve, call, hr, Except.mapError, if_neg ho]
    rw [writeRegion_word hb, if_pos hi.fits, ← hi.eq_overwrite]
    exact ⟨rfl, rfl⟩
  | outside hb hr ho hi =>
    rw [if_neg (Nat.not_le.2 hb)]
    simp only [andThen, reserve, call, hr, Except.mapError, if_neg ho]
    rw [writeRegion_word hb, if_neg (Nat.not_le.2 hi)]
    exact ⟨rfl, rfl⟩

theorem exists_writeOutcome (h : Host σ) (handle : UInt32) (bytes : ByteArray) :
    ∃ result machine, WriteOutcome h handle bytes result machine := by
  by_cases hb : UInt32.size ≤ bytes.size
  · exact ⟨_, _, .tooLong hb⟩
  rw [Nat.not_le] at hb
  rcases hr : h.guest.reserve handle (UInt32.ofNat bytes.size) h.machine with
    ⟨trap | offset, m, logs⟩
  · exact ⟨_, _, .reserveTrapped hb hr⟩
  by_cases ho : offset = 0
  · subst ho
    rcases hp : h.guest.ptr handle m with ⟨trap | old, m', logs'⟩
    · exact ⟨_, _, .ptrTrapped hb hr hp⟩
    by_cases hz : old = 0
    · subst hz
      exact ⟨_, _, .nowhere hb hr hp⟩
    · exact ⟨_, _, .refused hb hr hp hz⟩
  by_cases hi : offset.toNat + bytes.size ≤ m.memory.size
  · exact ⟨_, _, .copied hb hr ho (Bytes.replaced_overwrite hi)⟩
  · exact ⟨_, _, .outside hb hr ho (Nat.lt_of_not_le hi)⟩

theorem writeOutcome_iff {h : Host σ} {handle : UInt32} {bytes : ByteArray}
    {result : Except HostFault Unit} {machine : Guest.Machine σ} :
    WriteOutcome h handle bytes result machine ↔
      (h.write handle bytes).result = result ∧
        (h.write handle bytes).state.machine = machine := by
  refine ⟨write_of_outcome, fun ⟨hr, hm⟩ => ?_⟩
  obtain ⟨result', machine', o⟩ := exists_writeOutcome h handle bytes
  obtain ⟨rfl, rfl⟩ := write_of_outcome o
  rwa [hr, hm] at o

/-- Whatever the guest does, the host touches no byte outside the guest's memory. A read changes
no byte and hands out those of the region that the guest named; a write changes those of the
region that was reserved and no other; and a trap, a null address or a region that does not fit
is answered by its own fault, with no copy made. -/
theorem copies_stay_inside (h : Host σ) (handle : UInt32) (bytes : ByteArray) :
    (∀ result machine, ReadOutcome h handle result machine ↔
        (h.read handle).result = result ∧ (h.read handle).state.machine = machine) ∧
      ∀ result machine, WriteOutcome h handle bytes result machine ↔
        (h.write handle bytes).result = result ∧
          (h.write handle bytes).state.machine = machine :=
  ⟨fun _ _ => readOutcome_iff, fun _ _ => writeOutcome_iff⟩

end Host

end HandleBridge
