import HandleBridge.Event
import HandleBridge.Proofs.Region

/-
  What reads and writes of a memory answer, and what they do to each other.

  A region is served exactly if it ends inside the memory, the end taken as a whole number: a sum
  of offset and length that fits no word lies outside. A write that is served leaves its bytes in
  its region, one that is refused changes nothing, and the size stays. So all there is to know of a
  memory after a write is which byte stands at which place (`Write.getElem?_on`); the laws follow
  by comparing places, and those of a row of writes from those of one.

  Proved:
  * `readRegion_eq`, `writeRegion_eq`: both accesses, with the check said in whole numbers.
  * `Write.result_on`, `Write.size_on`, `Write.getElem?_on`: answer, size and places of a write.
  * `Write.run_perm`, `Write.read_run`: writes that all lie apart may come in any order, and each
    is read back in the end.
  * `accesses_lawful`: who is served, what is read back, what is read as before, and that writes
    apart from each other may change places, two or any number of them.
-/

namespace HandleBridge

/-- No place is both among the `len` places from `offset` on and among the `len'` places from
`offset'` on. A region without a place lies apart from every region. -/
def Bytes.Apart (offset len offset' len' : Nat) : Prop :=
  ∀ i, ¬ ((offset ≤ i ∧ i < offset + len) ∧ offset' ≤ i ∧ i < offset' + len')

/-- A row of bytes whose size is a word, as it is on every machine with 64-bit addresses. -/
def Addressable (bytes : ByteArray) : Prop := bytes.size < UInt64.size

/-! ## The check in whole numbers -/

variable {memory bytes : ByteArray} {offset n : UInt64}

theorem Addressable.toNat_size (h : Addressable bytes) :
    (UInt64.ofNat bytes.size).toNat = bytes.size :=
  UInt64.toNat_ofNat_of_lt' h

theorem readRegion_eq (hm : Addressable memory) : readRegion memory offset n =
    if offset.toNat + n.toNat ≤ memory.size then
      .ok (memory.extract offset.toNat (offset.toNat + n.toNat))
    else .error (.outOfBounds offset.toNat n.toNat memory.size) := by
  split
  · exact readRegion_of_le hm ‹_›
  · unfold readRegion
    rw [regionEnd?_eq_none (Nat.lt_of_not_le ‹_›)]
    rfl

theorem writeRegion_eq (hm : Addressable memory) (hb : Addressable bytes) :
    writeRegion memory offset bytes =
      if offset.toNat + bytes.size ≤ memory.size then
        .ok (Bytes.overwrite memory offset.toNat bytes)
      else .error (.outOfBounds offset.toNat bytes.size memory.size) := by
  split
  · exact writeRegion_of_le hm ‹_›
  · have hn : memory.size < offset.toNat + (UInt64.ofNat bytes.size).toNat := by
      rw [hb.toNat_size]
      exact Nat.lt_of_not_le ‹_›
    unfold writeRegion
    dsimp only
    rw [regionEnd?_eq_none hn, regionFault, hb.toNat_size]

theorem readRegion_eq_ok_iff (hm : Addressable memory) : readRegion memory offset n = .ok bytes ↔
    bytes.size = n.toNat ∧ Bytes.StandAt memory offset.toNat bytes := by
  rw [readRegion_eq hm]
  constructor
  · intro hr
    split at hr
    · cases hr
      obtain ⟨hi, hs⟩ := Bytes.standAt_extract ‹_›
      exact ⟨hs, hi⟩
    · cases hr
  · rintro ⟨hs, hi⟩
    rw [if_pos (by rw [← hs]; exact hi.1), ← hs, ← hi.eq_extract]

/-! ## One write -/

/-- Bytes to be written, and where to. -/
structure Write where
  offset : UInt64
  bytes : ByteArray
  addressable : Addressable bytes

namespace Write

/-- The length of the region. -/
def len (w : Write) : UInt64 := UInt64.ofNat w.bytes.size

/-- The region ends inside the memory. -/
def Fits (w : Write) (memory : ByteArray) : Prop :=
  w.offset.toNat + w.bytes.size ≤ memory.size

instance (w : Write) (memory : ByteArray) : Decidable (w.Fits memory) :=
  inferInstanceAs (Decidable (_ ≤ _))

/-- The place is in the region. -/
def Covers (w : Write) (i : Nat) : Prop :=
  w.offset.toNat ≤ i ∧ i < w.offset.toNat + w.bytes.size

instance (w : Write) (i : Nat) : Decidable (w.Covers i) := inferInstanceAs (Decidable (_ ∧ _))

/-- The regions have no place in common. -/
def Apart (w w' : Write) : Prop :=
  Bytes.Apart w.offset.toNat w.bytes.size w'.offset.toNat w'.bytes.size

theorem Apart.symm {w w' : Write} (h : Apart w w') : Apart w' w :=
  fun i hi => h i ⟨hi.2, hi.1⟩

/-- The write asked of a memory: what it answers, and the memory after it. -/
def on (w : Write) (memory : ByteArray) : Step Fault ByteArray Unit :=
  match writeRegion memory w.offset w.bytes with
  | .ok memory' => .ok () memory' []
  | .error cause => .failed cause memory []

variable {w w' : Write}

theorem toNat_len (w : Write) : w.len.toNat = w.bytes.size := w.addressable.toNat_size

theorem on_of_fits (hm : Addressable memory) (h : w.Fits memory) :
    w.on memory = .ok () (Bytes.overwrite memory w.offset.toNat w.bytes) [] := by
  unfold on
  rw [writeRegion_eq hm w.addressable]
  unfold Fits at h
  rw [if_pos h]

theorem on_of_not_fits (hm : Addressable memory) (h : ¬ w.Fits memory) : w.on memory =
    .failed (.outOfBounds w.offset.toNat w.bytes.size memory.size) memory [] := by
  unfold on
  rw [writeRegion_eq hm w.addressable]
  unfold Fits at h
  rw [if_neg h]

theorem result_on (hm : Addressable memory) : (w.on memory).result =
    if w.Fits memory then .ok ()
    else .error (.outOfBounds w.offset.toNat w.bytes.size memory.size) := by
  split
  · rw [on_of_fits hm ‹_›]
    rfl
  · rw [on_of_not_fits hm ‹_›]
    rfl

theorem result_on_eq_ok_iff (hm : Addressable memory) :
    (w.on memory).result = .ok () ↔ w.Fits memory := by
  rw [result_on hm]
  by_cases h : w.Fits memory
  · simp [h]
  · simp [h]

theorem size_on (hm : Addressable memory) : (w.on memory).state.size = memory.size := by
  by_cases h : w.Fits memory
  · rw [on_of_fits hm h]
    exact Bytes.size_overwrite h
  · rw [on_of_not_fits hm h]
    rfl

theorem addressable_on (hm : Addressable memory) : Addressable (w.on memory).state := by
  unfold Addressable
  rw [size_on hm]
  exact hm

theorem fits_on (hm : Addressable memory) : w'.Fits (w.on memory).state ↔ w'.Fits memory := by
  unfold Fits
  rw [size_on hm]

theorem getElem?_on (hm : Addressable memory) (i : Nat) : (w.on memory).state[i]? =
    if w.Fits memory ∧ w.Covers i then w.bytes[i - w.offset.toNat]? else memory[i]? := by
  by_cases h : w.Fits memory
  · rw [on_of_fits hm h]
    simp only [h, true_and]
    exact Bytes.getElem?_overwrite h i
  · rw [on_of_not_fits hm h, if_neg fun hc => h hc.1]
    rfl

theorem read_on_same (hm : Addressable memory) (h : w.Fits memory) :
    readRegion (w.on memory).state w.offset w.len = .ok w.bytes := by
  rw [readRegion_eq_ok_iff (addressable_on hm), toNat_len, on_of_fits hm h]
  exact ⟨rfl, (Bytes.replaced_overwrite h).inside⟩

theorem read_on_apart (hm : Addressable memory)
    (ha : Bytes.Apart w.offset.toNat w.bytes.size offset.toNat n.toNat) :
    readRegion (w.on memory).state offset n = readRegion memory offset n := by
  have he : (w.on memory).state.extract offset.toNat (offset.toNat + n.toNat) =
      memory.extract offset.toNat (offset.toNat + n.toNat) := by
    refine Bytes.extract_congr (size_on hm) fun i hi hj => ?_
    rw [getElem?_on hm, if_neg fun hc => ha i ⟨hc.2, hi, hj⟩]
  rw [readRegion_eq (addressable_on hm), readRegion_eq hm, size_on hm, he]

/-! ## One write after another -/

/-- What a write answers depends on the size of the memory only. -/
theorem result_on_on (hm : Addressable memory) :
    (w'.on (w.on memory).state).result = (w'.on memory).result := by
  rw [result_on (addressable_on hm), result_on hm, size_on hm]
  simp only [fits_on hm]

theorem state_on_comm (hm : Addressable memory) (ha : w.Apart w') :
    (w'.on (w.on memory).state).state = (w.on (w'.on memory).state).state := by
  apply Bytes.eq_of_getElem?
  intro i
  rw [getElem?_on (addressable_on hm), getElem?_on (addressable_on hm), getElem?_on hm,
    getElem?_on hm]
  simp only [fits_on hm]
  -- at most one of the two covers the place
  by_cases hw : w.Fits memory ∧ w.Covers i
  · have hw' : ¬ (w'.Fits memory ∧ w'.Covers i) := fun h => ha i ⟨hw.2, h.2⟩
    rw [if_neg hw', if_pos hw, if_pos hw]
  · rw [if_neg hw, if_neg hw]

/-! ## Rows of writes -/

/-- The memory after one write after the other. -/
def run (ws : List Write) (memory : ByteArray) : ByteArray :=
  ws.foldl (fun memory w => (w.on memory).state) memory

theorem size_run (hm : Addressable memory) (ws : List Write) :
    (run ws memory).size = memory.size := by
  induction ws generalizing memory with
  | nil => rfl
  | cons w ws ih => exact (ih (addressable_on hm)).trans (size_on hm)

/-- Writes that all lie apart leave the same memory in every order. -/
theorem run_perm (hm : Addressable memory) {ws ws' : List Write} (hp : ws.Perm ws')
    (ha : ws.Pairwise Apart) : run ws memory = run ws' memory := by
  induction hp generalizing memory with
  | nil => rfl
  | cons w hp ih => exact ih (addressable_on hm) (List.pairwise_cons.1 ha).2
  | swap w w' ws =>
    have hw : w'.Apart w := (List.pairwise_cons.1 ha).1 w (.head _)
    exact congrArg (run ws) (state_on_comm hm hw)
  | trans hp hq ih ih' =>
    exact (ih hm ha).trans (ih' hm ((hp.pairwise_iff fun h => h.symm).1 ha))

/-- Of writes that all lie apart, each that fits is read back in the end. -/
theorem read_run (hm : Addressable memory) {ws : List Write} (ha : ws.Pairwise Apart) {w : Write}
    (hw : w ∈ ws) (hf : w.Fits memory) :
    readRegion (run ws memory) w.offset w.len = .ok w.bytes := by
  obtain ⟨before, behind, rfl⟩ := List.append_of_mem hw
  -- the write comes last in another order
  have hp : (before ++ w :: behind).Perm (before ++ behind ++ [w]) := by
    rw [List.append_assoc]
    exact (List.perm_append_singleton w behind).symm.append_left before
  have hr : Addressable (run (before ++ behind) memory) := by
    unfold Addressable
    rw [size_run hm]
    exact hm
  have hlast : w.Fits (run (before ++ behind) memory) := by
    unfold Fits
    rw [size_run hm]
    exact hf
  rw [run_perm hm hp ha, run, List.foldl_append]
  exact read_on_same hr hlast

end Write

/-- How a memory answers reads and writes. Sums of offsets and lengths are whole numbers. -/
structure Lawful (memory : ByteArray) : Prop where
  read_served_iff : ∀ offset len : UInt64, (∃ bytes, readRegion memory offset len = .ok bytes) ↔
    offset.toNat + len.toNat ≤ memory.size
  /-- A read hands out the bytes of its region. -/
  read_bytes : ∀ {offset len : UInt64} {bytes}, readRegion memory offset len = .ok bytes →
    bytes.size = len.toNat ∧ Bytes.StandAt memory offset.toNat bytes
  read_refused : ∀ offset len : UInt64, memory.size < offset.toNat + len.toNat →
    readRegion memory offset len = .error (.outOfBounds offset.toNat len.toNat memory.size)
  write_served_iff : ∀ w : Write, (w.on memory).result = .ok () ↔
    w.offset.toNat + w.bytes.size ≤ memory.size
  /-- A write that is refused leaves the memory as it was. -/
  write_refused : ∀ w : Write, memory.size < w.offset.toNat + w.bytes.size →
    w.on memory = .failed (.outOfBounds w.offset.toNat w.bytes.size memory.size) memory []
  write_size : ∀ w : Write, (w.on memory).state.size = memory.size
  read_back : ∀ w : Write, (w.on memory).result = .ok () →
    readRegion (w.on memory).state w.offset w.len = .ok w.bytes
  /-- A region apart from the one written is read as before, and refused as before. -/
  read_apart : ∀ (w : Write) (offset len : UInt64),
    Bytes.Apart w.offset.toNat w.bytes.size offset.toNat len.toNat →
    readRegion (w.on memory).state offset len = readRegion memory offset len
  /-- Two writes apart from each other are answered alike in both orders and leave the same
  memory. -/
  writes_commute : ∀ w w' : Write, w.Apart w' →
    (w'.on (w.on memory).state).result = (w'.on memory).result ∧
      (w.on (w'.on memory).state).result = (w.on memory).result ∧
      (w'.on (w.on memory).state).state = (w.on (w'.on memory).state).state
  /-- So any number of writes that all lie apart may come in any order. -/
  row_perm : ∀ {ws ws' : List Write}, ws.Perm ws' → ws.Pairwise Write.Apart →
    Write.run ws memory = Write.run ws' memory
  /-- Each of them that is served is read back in the end. -/
  row_read_back : ∀ {ws : List Write} {w : Write}, ws.Pairwise Write.Apart → w ∈ ws →
    (w.on memory).result = .ok () →
      readRegion (Write.run ws memory) w.offset w.len = .ok w.bytes

/-- The laws hold in every memory whose size is a word, for all offsets and lengths that are words
and all bytes to be written. -/
theorem accesses_lawful (hm : Addressable memory) : Lawful memory where
  read_served_iff offset len := by
    rw [readRegion_eq hm]
    by_cases h : offset.toNat + len.toNat ≤ memory.size
    · simp [h]
    · simp [h]
  read_bytes hr := (readRegion_eq_ok_iff hm).1 hr
  read_refused _ _ h := by rw [readRegion_eq hm, if_neg (Nat.not_le.2 h)]
  write_served_iff _ := Write.result_on_eq_ok_iff hm
  write_refused _ h := Write.on_of_not_fits hm (Nat.not_le.2 h)
  write_size _ := Write.size_on hm
  read_back _ h := Write.read_on_same hm ((Write.result_on_eq_ok_iff hm).1 h)
  read_apart _ _ _ ha := Write.read_on_apart hm ha
  writes_commute _ _ ha :=
    ⟨Write.result_on_on hm, Write.result_on_on hm, Write.state_on_comm hm ha⟩
  row_perm hp ha := Write.run_perm hm hp ha
  row_read_back ha hw h := Write.read_run hm ha hw ((Write.result_on_eq_ok_iff hm).1 h)

/-- A word to be written. -/
def Write.word (offset : UInt64) (value : UInt32) : Write where
  offset := offset
  bytes := Bytes.ofWord value
  addressable := show 4 < UInt64.size by decide

/-- In a memory of sixteen bytes the region without a place behind the last byte is served, one
whose end wraps to 1 is refused, and so is a word whose last byte lies outside. Of two words next
to each other either may be written first. -/
theorem accesses_lawful_at_edges :
    Addressable (Bytes.zeros 16) ∧ Lawful (Bytes.zeros 16) ∧
      (∃ bytes, readRegion (Bytes.zeros 16) 16 0 = .ok bytes) ∧
      readRegion (Bytes.zeros 16) 18446744073709551615 2 =
        .error (.outOfBounds 18446744073709551615 2 16) ∧
      (Write.word 13 7).on (Bytes.zeros 16) =
        .failed (.outOfBounds 13 4 16) (Bytes.zeros 16) [] ∧
      readRegion ((Write.word 12 7).on (Bytes.zeros 16)).state 12 4 = .ok (Bytes.ofWord 7) ∧
      ((Write.word 12 9).on ((Write.word 8 7).on (Bytes.zeros 16)).state).state =
        ((Write.word 8 7).on ((Write.word 12 9).on (Bytes.zeros 16)).state).state := by
  have hs : (Bytes.zeros 16).size = 16 := Bytes.size_zeros 16
  have hm : Addressable (Bytes.zeros 16) := by
    unfold Addressable
    rw [hs]
    decide
  have laws := accesses_lawful hm
  have wrapped := laws.read_refused 18446744073709551615 2 (by rw [hs]; decide)
  have late := laws.write_refused (.word 13 7) (by rw [hs]; decide)
  have served := (laws.write_served_iff (.word 12 7)).2 (by rw [hs]; decide)
  have apart : (Write.word 8 7).Apart (.word 12 9) := by
    rintro i ⟨⟨-, h₁⟩, h₂, -⟩
    exact absurd (Nat.lt_of_lt_of_le h₁ h₂) (Nat.lt_irrefl _)
  rw [hs] at wrapped late
  exact ⟨hm, laws, (laws.read_served_iff 16 0).2 (by rw [hs]; decide), wrapped, late,
    laws.read_back _ served, (laws.writes_commute _ _ apart).2.2⟩

end HandleBridge
