import HandleBridge.Proofs.Buffer

/-
  A buffer that is refilled over and over.

  A `Refill` is what the write protocol does once: the module reserves room, and if it gets it, the
  host copies bytes to the front of the room. How the allocator answers may change each time. After
  any number of refills the buffer ends in its one nul (`Terminated`), and its content goes back to
  the last refill that was granted, or else to what the buffer was made with.

  Proved:
  * `Refill.granted_iff`, `ofBytes_error_iff`: what the allocator is asked for, and when it is not
    asked at all.
  * `Refill.apply_of_granted`, `Refill.apply_of_refused`: one refill.
  * `terminated_refills`, `refills_of_refused`: any number of them.
  * `Begins.refilled`, `refills_keep_last_granted`: the buffer after any refills, and the ways to
    fail.
-/

namespace HandleBridge.Buffer

variable {heap : Allocator} {bytes : ByteArray} {b : Buffer}

/-! ## What is refused -/

theorem allocate_of_large {n : Nat} (hn : maxContent < n) :
    allocate heap n = .error (.outOfMemory n) := by
  unfold allocate allocateAt
  rw [if_pos hn]

/-- Content is refused if its length is no word, or there is no room for it and its nul. -/
theorem ofBytes_error_iff {e : Fault} :
    ofBytes heap bytes = .error e ↔
      e = .outOfMemory bytes.size ∧ (UInt32.size ≤ bytes.size ∨ heap (bytes.size + 1) = none) := by
  have hlarge : maxContent < bytes.size ↔ UInt32.size ≤ bytes.size := by
    simp only [maxContent, UInt32.size]
    omega
  rw [← hlarge]
  by_cases hn : maxContent < bytes.size
  · unfold ofBytes
    rw [allocate_of_large hn]
    simp [hn, eq_comm]
  · cases ha : heap (bytes.size + 1) with
    | none =>
      unfold ofBytes
      rw [allocate_of_refused (Nat.le_of_not_lt hn) ha]
      simp [eq_comm]
    | some a =>
      rw [ofBytes_of_granted (Nat.le_of_not_lt hn) ha]
      simp [hn]

/-! ## One refill -/

/-- Room is asked for, and bytes for its front are at hand. -/
structure Refill where
  /-- How the allocator answers this time. -/
  heap : Allocator
  size : UInt32
  copied : ByteArray
  fits : copied.size ≤ size.toNat

namespace Refill

/-- The buffer afterwards. If the room is refused, nothing is copied. -/
def apply (b : Buffer) (r : Refill) : Buffer :=
  match reserve r.heap r.size.toNat with
  | .ok fresh => fresh.write 0 r.copied
  | .error _ => b

/-- The room is there. -/
def Granted (r : Refill) : Prop := ∃ fresh, reserve r.heap r.size.toNat = .ok fresh

/-- The bytes that are copied, and zeros in the rest of the room. -/
def content (r : Refill) : ByteArray := r.copied ++ Bytes.zeros (r.size.toNat - r.copied.size)

variable {r : Refill}

theorem size_content (r : Refill) : r.content.size = r.size.toNat := by
  have hf := r.fits
  unfold content
  rw [ByteArray.size_append, Bytes.size_zeros]
  omega

theorem reserve_of_none (h : r.heap (r.size.toNat + 1) = none) :
    reserve r.heap r.size.toNat = .error (.outOfMemory r.size.toNat) :=
  reserve_of_refused (toNat_le_maxContent _) h

theorem granted_iff : r.Granted ↔ r.heap (r.size.toNat + 1) ≠ none := by
  constructor
  · rintro ⟨fresh, hf⟩ hn
    rw [reserve_of_none hn] at hf
    cases hf
  · intro hn
    obtain ⟨a, ha⟩ := Option.ne_none_iff_exists'.1 hn
    exact ⟨_, reserve_of_granted (toNat_le_maxContent _) ha⟩

theorem reserve_of_not_granted (h : ¬ r.Granted) :
    reserve r.heap r.size.toNat = .error (.outOfMemory r.size.toNat) := by
  rw [granted_iff, Classical.not_not] at h
  exact reserve_of_none h

/-- Of what the buffer held before nothing is left. -/
theorem apply_of_granted (h : r.Granted) (b : Buffer) : (r.apply b).Terminated r.content := by
  obtain ⟨a, ha⟩ := Option.ne_none_iff_exists'.1 (granted_iff.1 h)
  have hr : reserve r.heap r.size.toNat = .ok ⟨a, (Bytes.zeros r.size.toNat).push 0⟩ :=
    reserve_of_granted (toNat_le_maxContent _) ha
  constructor
  · unfold apply
    rw [hr]
    exact Bytes.overwrite_zeros r.fits
  · rw [size_content]
    exact toNat_le_maxContent _

theorem apply_of_refused (h : ¬ r.Granted) (b : Buffer) : apply b r = b := by
  unfold apply
  rw [reserve_of_not_granted h]

end Refill

/-! ## Many refills -/

/-- The buffer after one refill after the other. -/
def refills (b : Buffer) (rs : List Refill) : Buffer := rs.foldl Refill.apply b

theorem refills_append (b : Buffer) (rs rs' : List Refill) :
    b.refills (rs ++ rs') = (b.refills rs).refills rs' := List.foldl_append

theorem terminated_refills (rs : List Refill) (h : ∃ bytes, b.Terminated bytes) :
    ∃ bytes, (b.refills rs).Terminated bytes := by
  -- what the content is changes with every refill that is granted, that there is one does not
  induction rs generalizing b with
  | nil => exact h
  | cons r rs ih =>
    have hr : ∃ bytes, (r.apply b).Terminated bytes := by
      by_cases hg : r.Granted
      · exact ⟨_, Refill.apply_of_granted hg b⟩
      · rw [Refill.apply_of_refused hg b]
        exact h
    exact ih hr

theorem refills_of_refused {rs : List Refill} (h : ∀ r ∈ rs, ¬ r.Granted) (b : Buffer) :
    b.refills rs = b := by
  induction rs with
  | nil => rfl
  | cons r rs ih =>
    have hr : r.apply b = b := Refill.apply_of_refused (h r (.head _)) b
    have ih := ih fun r' hr' => h r' (.tail _ hr')
    show (r.apply b).refills rs = b
    rw [hr, ih]

/-- How a buffer is made, and what it holds then. -/
inductive Begins : Buffer → ByteArray → Prop where
  | empty {address} : Begins (empty address) ByteArray.empty
  | ofBytes {heap : Allocator} {bytes : ByteArray} {b : Buffer} :
    ofBytes heap bytes = .ok b → Begins b bytes

theorem Begins.terminated (h : Begins b bytes) : b.Terminated bytes := by
  cases h with
  | empty => exact ⟨Bytes.zeros_succ 0, Nat.zero_le _⟩
  | @ofBytes heap _ _ ho =>
    have hn : ¬ maxContent < bytes.size := by
      intro hn
      unfold Buffer.ofBytes at ho
      rw [allocate_of_large hn] at ho
      cases ho
    exact ⟨bytesWithNul_ofBytes ho, Nat.le_of_not_lt hn⟩

/-- A buffer that held `bytes` and was refilled since. -/
structure Refilled (bytes : ByteArray) (rs : List Refill) (b : Buffer) : Prop where
  bytesWithNul_eq : b.bytesWithNul = b.bytes.push 0
  toNat_len : b.len.toNat = b.bytes.size
  isEmpty_iff : b.isEmpty = true ↔ b.bytes.size = 0
  last_granted : ∀ before r after, rs = before ++ r :: after → r.Granted →
    (∀ r' ∈ after, ¬ r'.Granted) → b.bytes = r.content
  none_granted : (∀ r ∈ rs, ¬ r.Granted) → b.bytes = bytes
  refused : ∀ r : Refill, ¬ r.Granted →
    reserve r.heap r.size.toNat = .error (.outOfMemory r.size.toNat) ∧ r.apply b = b

theorem Begins.refilled (h : Begins b bytes) (rs : List Refill) :
    Refilled bytes rs (b.refills rs) := by
  obtain ⟨content, hc⟩ := terminated_refills rs ⟨bytes, h.terminated⟩
  have hb : (b.refills rs).bytes = content := hc.bytes_eq
  constructor
  · rw [hb]
    exact hc.data_eq
  · rw [hb, hc.toNat_len]
  · rw [hb, hc.isEmpty_iff]
  · rintro before r after rfl hg ha
    have he : b.refills (before ++ r :: after) = r.apply (b.refills before) := by
      rw [refills_append]
      exact refills_of_refused ha _
    rw [he]
    exact (Refill.apply_of_granted hg _).bytes_eq
  · intro hr
    rw [refills_of_refused hr]
    exact h.terminated.bytes_eq
  · intro r hr
    exact ⟨Refill.reserve_of_not_granted hr, Refill.apply_of_refused hr _⟩

/-- However often a buffer is refilled, it ends in one nul that its length does not count, and holds
what the last refill that was granted has copied, with zeros behind it, or else what it was made
with. A refused refill changes nothing. Content to begin with is refused only for its length or for
want of room. -/
theorem refills_keep_last_granted :
    (∀ (b : Buffer) (bytes : ByteArray), Begins b bytes →
      ∀ rs : List Refill, Refilled bytes rs (b.refills rs)) ∧
      ∀ (heap : Allocator) (bytes : ByteArray) (e : Fault), Buffer.ofBytes heap bytes = .error e ↔
        e = .outOfMemory bytes.size ∧ (UInt32.size ≤ bytes.size ∨ heap (bytes.size + 1) = none) :=
  ⟨fun _ _ h rs => h.refilled rs, fun _ _ _ => ofBytes_error_iff⟩

/-- Two bytes for three are copied to an empty buffer, then there is no more room. -/
theorem short_copy_then_refused :
    let short : Refill := ⟨fun _ => some 16, 3, ⟨#[104, 105]⟩, by decide⟩
    let refused : Refill := ⟨fun _ => none, 9, ⟨#[33]⟩, by decide⟩
    ((empty 8).refills [short, refused]).bytes = ⟨#[104, 105, 0]⟩ := by
  intro short refused
  have hshort : short.Granted := Refill.granted_iff.2 (by simp [short])
  have hrefused : ¬ refused.Granted := by
    rw [Refill.granted_iff]
    simp [refused]
  have h := refills_keep_last_granted.1 (empty 8) .empty .empty [short, refused]
  have hlast : ((empty 8).refills [short, refused]).bytes = short.content := by
    refine h.last_granted [] short [refused] rfl hshort ?_
    intro r hr
    rw [List.mem_singleton.1 hr]
    exact hrefused
  rw [hlast]
  decide

end HandleBridge.Buffer
