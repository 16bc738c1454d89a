import HandleBridge.Event
import HandleBridge.Proofs.Buffer.Refills

/-
  Reserving room on machines with other addresses.

  A block has one byte more than its content, and sizes wrap at the width of an address. Where an
  address has more bits than a length, no length is long enough for that. Where it has just as
  many, the longest content wraps: its block has no byte, needs no memory, and is granted by every
  allocator. The buffer is left without even a nul, while its length claims what was asked for.

  Proved:
  * `blockSize_eq_iff`: which sizes wrap.
  * `lenAt_eq`: the length of a buffer that has its nul does not depend on the width.
  * `renewAt_of_fits`, `renewAt_of_wraps`: one request for room. With 64-bit addresses it is what a
    refill begins with (`apply_eq_renewAt`).
  * `terminated_renewals`: any number of them.
  * `renewal_safe_unless_wraps`: how a request turns out at any width.
-/

namespace HandleBridge.Buffer

variable {width : Nat} {heap : Allocator} {n : UInt32} {b : Buffer}

/-! ## Sizes that wrap -/

/-- The size of the block does not fit an address: the addresses have no more bits than a length,
and the content is the longest. -/
def Wraps (width : Nat) (n : UInt32) : Prop := width = 32 ∧ n.toNat = maxContent

instance (width : Nat) (n : UInt32) : Decidable (Wraps width n) := inferInstanceAs (Decidable (_ ∧ _))

theorem succ_le_two_pow (hw : 32 ≤ width) (n : UInt32) : n.toNat + 1 ≤ 1 <<< width := by
  have hn : n.toNat < 2 ^ 32 := n.toNat_lt
  have hp : 2 ^ 32 ≤ 2 ^ width := Nat.pow_le_pow_right Nat.two_pos hw
  rw [Nat.one_shiftLeft]
  omega

theorem wraps_iff (hw : 32 ≤ width) : Wraps width n ↔ n.toNat + 1 = 1 <<< width := by
  have hn : n.toNat < 2 ^ 32 := n.toNat_lt
  rw [Nat.one_shiftLeft]
  unfold Wraps maxContent UInt32.size
  constructor
  · rintro ⟨rfl, hm⟩
    omega
  · intro he
    rcases Nat.eq_or_lt_of_le hw with hw | hw
    · subst hw
      omega
    · have hp : 2 ^ 33 ≤ 2 ^ width := Nat.pow_le_pow_right Nat.two_pos hw
      omega

theorem blockSize_of_wraps (h : Wraps width n) : blockSize width n.toNat = 0 := by
  obtain ⟨rfl, hn⟩ := h
  unfold blockSize
  rw [hn]
  rfl

theorem blockSize_of_fits (hw : 32 ≤ width) (h : ¬ Wraps width n) :
    blockSize width n.toNat = n.toNat + 1 := by
  have hle := succ_le_two_pow hw n
  rw [wraps_iff hw] at h
  exact Nat.mod_eq_of_lt (by omega)

theorem blockSize_eq_iff (hw : 32 ≤ width) :
    blockSize width n.toNat = n.toNat + 1 ↔ ¬ Wraps width n := by
  constructor
  · intro he h
    rw [blockSize_of_wraps h] at he
    omega
  · exact blockSize_of_fits hw

/-! ## Lengths -/

theorem lenAt_of_size (hw : 32 ≤ width) (hs : b.data.size = n.toNat + 1) : b.lenAt width = n := by
  have hle := succ_le_two_pow hw n
  have he : b.data.size + ((1 <<< width) - 1) = n.toNat + 1 <<< width := by omega
  unfold lenAt
  rw [he, Nat.add_mod_right, Nat.mod_eq_of_lt (by omega), UInt32.ofNat_toNat]

/-- The length of a buffer that ends in its nul is the same at every width. -/
theorem Terminated.lenAt_eq {bytes : ByteArray} (h : b.Terminated bytes) (hw : 32 ≤ width) :
    b.lenAt width = b.len := by
  apply lenAt_of_size hw
  rw [h.toNat_len, h.size_eq]

/-- A buffer without a byte claims the longest content, where addresses are as wide as lengths. -/
theorem lenAt_of_void (hs : b.data.size = 0) : (b.lenAt 32).toNat = maxContent := by
  unfold lenAt
  rw [hs]
  rfl

/-! ## One request for room -/

/-- Asks for room for `n` bytes in place of the content. The buffer stays as it is if there is
none. -/
def renewAt (width : Nat) (heap : Allocator) (n : UInt32) (b : Buffer) : Step Fault Buffer Nat :=
  match reserveAt width heap n.toNat with
  | .ok fresh => .ok fresh.address fresh []
  | .error cause => .failed cause b []

/-- The request was refused and left the buffer as it was, or the buffer has `n` zeros and a nul
now. -/
inductive Renewed (width : Nat) (n : UInt32) (b : Buffer) : Step Fault Buffer Nat → Prop where
  | refused : Renewed width n b (.failed (.outOfMemory n.toNat) b [])
  | granted {fresh : Buffer} (data_eq : fresh.data = (Bytes.zeros n.toNat).push 0)
    (size_eq : fresh.data.size = n.toNat + 1) (lenAt_eq : fresh.lenAt width = n) :
    Renewed width n b (.ok fresh.address fresh [])

/-- Whatever fails, it fails for want of the memory that was asked for. -/
theorem allocateAt_cases (width : Nat) (heap : Allocator) (n : Nat) :
    allocateAt width heap n = .error (.outOfMemory n) ∨ ∃ a, allocateAt width heap n = .ok a := by
  unfold allocateAt
  split
  · exact .inl rfl
  · split
    · exact .inr ⟨1, rfl⟩
    · split
      · exact .inl rfl
      · cases heap (blockSize width n) with
        | none => exact .inl rfl
        | some a => exact .inr ⟨a, rfl⟩

theorem renewAt_of_fits (hw : 32 ≤ width) (h : ¬ Wraps width n) (heap : Allocator) (b : Buffer) :
    Renewed width n b (renewAt width heap n b) := by
  unfold renewAt reserveAt
  rcases allocateAt_cases width heap n.toNat with ha | ⟨a, ha⟩
  · rw [ha]
    exact .refused
  · rw [ha, blockSize_of_fits hw h]
    have hs : (Bytes.zeros (n.toNat + 1)).size = n.toNat + 1 := Bytes.size_zeros _
    exact .granted (Bytes.zeros_succ _) hs (lenAt_of_size hw hs)

/-- Every allocator grants a block without a byte. -/
theorem renewAt_of_wraps (h : Wraps width n) (heap : Allocator) (b : Buffer) :
    renewAt width heap n b = .ok 1 ⟨1, ByteArray.empty⟩ [] := by
  have ha : allocateAt width heap n.toNat = .ok 1 := by
    unfold allocateAt
    rw [if_neg (Nat.not_lt.2 (toNat_le_maxContent n)), if_pos (blockSize_of_wraps h)]
  unfold renewAt reserveAt
  rw [ha, blockSize_of_wraps h]
  rfl

/-- A buffer of a 64-bit module is refilled by a request for room and a copy. -/
theorem apply_eq_renewAt (r : Refill) (b : Buffer) : r.apply b =
    match (renewAt 64 r.heap r.size b).result with
    | .ok _ => (renewAt 64 r.heap r.size b).state.write 0 r.copied
    | .error _ => b := by
  unfold Refill.apply renewAt reserve
  cases reserveAt 64 r.heap r.size.toNat <;> rfl

/-- Each outcome keeps the nul behind the content. -/
theorem Renewed.terminated {step : Step Fault Buffer Nat} (h : Renewed width n b step)
    (hb : ∃ bytes, b.Terminated bytes) : ∃ bytes, step.state.Terminated bytes := by
  cases h with
  | refused => exact hb
  | granted data_eq size_eq lenAt_eq =>
    refine ⟨_, data_eq, ?_⟩
    rw [Bytes.size_zeros]
    exact toNat_le_maxContent n

theorem not_renewed_of_void {step : Step Fault Buffer Nat} (hr : step.result = .ok 1)
    (hs : step.state.data.size = 0) : ¬ Renewed width n b step := by
  intro h
  cases h with
  | refused => cases hr
  | granted data_eq size_eq lenAt_eq => exact Nat.succ_ne_zero _ (size_eq.symm.trans hs)

/-! ## Many requests -/

/-- A request for room, and how the allocator answers that time. -/
structure Request where
  heap : Allocator
  size : UInt32

/-- The buffer after one request after the other. -/
def renewals (width : Nat) (b : Buffer) (rs : List Request) : Buffer :=
  rs.foldl (fun b r => (renewAt width r.heap r.size b).state) b

theorem terminated_renewals (hw : 32 ≤ width) {rs : List Request}
    (hr : ∀ r ∈ rs, ¬ Wraps width r.size) (hb : ∃ bytes, b.Terminated bytes) :
    ∃ bytes, (renewals width b rs).Terminated bytes := by
  induction rs generalizing b with
  | nil => exact hb
  | cons r rs ih =>
    have first := renewAt_of_fits hw (hr r (.head _)) r.heap b
    exact ih (fun r' hr' => hr r' (.tail _ hr')) (first.terminated hb)

/-- How a request for room for `n` bytes turns out. -/
structure Outcomes (width : Nat) (n : UInt32) : Prop where
  blockSize_eq_iff : blockSize width n.toNat = n.toNat + 1 ↔ ¬ Wraps width n
  renewed_iff : (∀ (heap : Allocator) (b : Buffer), Renewed width n b (renewAt width heap n b)) ↔
    ¬ Wraps width n
  /-- If the size wraps, every allocator grants a block without a byte. -/
  void : Wraps width n → ∀ (heap : Allocator) (b : Buffer),
    renewAt width heap n b = .ok 1 ⟨1, ByteArray.empty⟩ []
  /-- Until a size wraps, the buffer has its nul, and its length at this width is that of its
  content. -/
  sound : ∀ (b : Buffer) (rs : List Request), (∃ bytes, b.Terminated bytes) →
    (∀ r ∈ rs, ¬ Wraps width r.size) → ∃ bytes, (renewals width b rs).Terminated bytes ∧
      (renewals width b rs).lenAt width = UInt32.ofNat bytes.size

/-- A request for room is refused or gives the room, whatever the allocator answers and whatever
the buffer held, except for the longest content where addresses have as many bits as lengths. -/
theorem renewal_safe_unless_wraps (hw : 32 ≤ width) (n : UInt32) : Outcomes width n := by
  constructor
  · exact blockSize_eq_iff hw
  · constructor
    · intro h hn
      have hv := renewAt_of_wraps hn (fun _ => none) (empty 1)
      have h := h (fun _ => none) (empty 1)
      rw [hv] at h
      exact not_renewed_of_void rfl rfl h
    · exact renewAt_of_fits hw
  · exact renewAt_of_wraps
  · intro b rs hb hr
    obtain ⟨bytes, ht⟩ := terminated_renewals hw hr hb
    refine ⟨bytes, ht, ?_⟩
    rw [ht.lenAt_eq hw]
    unfold len
    rw [ht.size_eq, Nat.add_sub_cancel]

/-- The longest content, asked for where an address has 32 bits, leaves a buffer without a byte that
claims all of it. The allocator has nothing to give. -/
theorem longest_content_granted_for_nothing :
    32 ≤ 32 ∧ Wraps 32 4294967295 ∧
      ∃ fresh, renewAt 32 (fun _ => none) 4294967295 (empty 8) = .ok 1 fresh [] ∧
        fresh.data.size = 0 ∧ (fresh.lenAt 32).toNat = 4294967295 := by
  have hw : Wraps 32 4294967295 := by decide
  have h := renewal_safe_unless_wraps (Nat.le_refl 32) 4294967295
  exact ⟨Nat.le_refl 32, hw, _, h.void hw _ _, rfl, lenAt_of_void rfl⟩

/-- A request for room does not always turn out well where an address has 32 bits. -/
theorem not_renewed_at_every_width :
    ¬ ∀ width, width = 32 ∨ width = 64 → ∀ (heap : Allocator) (n : UInt32) (b : Buffer),
      Renewed width n b (renewAt width heap n b) := by
  intro h
  have hw : Wraps 32 4294967295 := by decide
  have hr := h 32 (.inl rfl) (fun _ => none) 4294967295 (empty 8)
  rw [renewAt_of_wraps hw] at hr
  exact not_renewed_of_void rfl rfl hr

end HandleBridge.Buffer
