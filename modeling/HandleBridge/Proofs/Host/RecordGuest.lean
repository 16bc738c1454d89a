import HandleBridge.Host.Load
import HandleBridge.Proofs.Guest.Calls

/-
  The host with the reference guest.

  To a caller the two together are a shelf: a string for each live handle, and so many bytes that
  are left. `Call.next` says what a call does to the shelf, without a word about addresses. The
  invariant is that the guest's memory is laid out and holds what is on the shelf (`Shows`); each
  call keeps it, and is answered as the shelf says.

  Proved:
  * `Shows.create_made`, `Shows.write_made`, `Shows.destroy`: the calls that change the shelf.
  * `Shows.settles`, `Shows.after`: the invariant along one call, and along any sequence of calls.
  * `acts_as_shelf`: how every call is answered after any sequence of calls.
-/

namespace HandleBridge

/-! ## The shelf -/

/-- Strings by handle, and the bytes that are left for more. -/
structure Shelf where
  content : UInt32 → Option ByteArray
  room : Nat

namespace Shelf

open Guest.Record (defaultText)

/-- Nothing is live, and all of the page above the table is left. -/
def empty : Shelf := ⟨fun _ => none, 64512⟩

/-- The handles there are. -/
def handles : List UInt32 := [1, 2, 3, 4]

/-- The lowest handle that is not live. -/
def vacant? (s : Shelf) : Option UInt32 := handles.find? fun raw => (s.content raw).isNone

/-- Puts a string, with a nul behind it, under a handle. The room of the old one is not used
again. -/
def put (s : Shelf) (raw : UInt32) (bytes : ByteArray) : Shelf :=
  ⟨Function.update s.content raw (some bytes), s.room - (bytes.size + 1)⟩

/-- A new instance, if there is a handle and room for it. -/
def made (s : Shelf) : Shelf :=
  match s.vacant? with
  | some raw => if defaultText.size < s.room then s.put raw defaultText else s
  | none => s

end Shelf

namespace Host

/-- A call of the host's caller. Longer strings than half the words could wrap around in the
guest. -/
inductive Call where
  | create
  | instantiate
  | len (raw : UInt32)
  | ptr (raw : UInt32)
  | read (raw : UInt32)
  | write (raw : UInt32) (bytes : ByteArray) (short : bytes.size < 2147483648)
  | destroy (raw : UInt32)

namespace Call

/-- The type of a call's answer. -/
abbrev Answer : Call → Type
  | create => UInt32
  | instantiate => UInt32
  | len _ => UInt32
  | ptr _ => UInt32
  | read _ => ByteArray
  | write _ _ _ => Unit
  | destroy _ => Unit

variable {σ : Type}

def play : (c : Call) → Host σ → Step HostFault (Host σ) c.Answer
  | create, h => h.create
  | instantiate, h => h.instantiate
  | len raw, h => h.len raw
  | ptr raw, h => h.ptr raw
  | read raw, h => h.read raw
  | write raw bytes _, h => h.write raw bytes
  | destroy raw, h => h.destroy raw

/-- What a call leaves on the shelf. -/
def next : Call → Shelf → Shelf
  | create, s => s.made
  | instantiate, s => s.made
  | len _, s => s
  | ptr _, s => s
  | read _, s => s
  | write raw bytes _, s =>
    if (s.content raw).isSome ∧ bytes.size < s.room then s.put raw bytes else s
  | destroy raw, s => { s with content := Function.update s.content raw none }

end Call

/-- The host after a sequence of calls, whatever became of them. -/
def after {σ : Type} : List Call → Host σ → Host σ
  | [], h => h
  | c :: cs, h => after cs (c.play h).state

end Host

/-- The shelf after a sequence of calls. -/
def Shelf.after : List Host.Call → Shelf → Shelf
  | [], s => s
  | c :: cs, s => Shelf.after cs (c.next s)

/-! ## Calls into a guest -/

namespace Host

section Calls

variable {σ α β : Type} {h : Host σ} {name : String} {code : Guest.Code σ α} {a : α}
  {m : Guest.Machine σ}

theorem call_eq (e : code h.machine = ⟨.ok a, m, []⟩) :
    h.call name code = .ok a { h with machine := m } [] := by
  unfold call
  rw [e]
  rfl

/-- A call that leaves the machine as it is changes nothing. -/
theorem call_still (e : code h.machine = ⟨.ok a, h.machine, []⟩) :
    h.call name code = .ok a h [] := call_eq e

theorem andThen_ok {first : Step HostFault (Host σ) α}
    {next : α → Host σ → Step HostFault (Host σ) β} (e : first = .ok a h []) :
    andThen first next = next a h := by
  rw [e]
  rfl

end Calls

/-! ## The invariant -/

open Guest.Record (LaidOut stringOf? room HasSlot slotOf? slotAddress)

/-- The host drives the reference guest, the memory of which holds what is on the shelf. -/
structure Shows (s : Shelf) (h : Host Guest.Record.State) : Prop where
  guest_eq : h.guest = Guest.Record.guest
  laidOut : LaidOut h.machine
  content_eq : stringOf? h.machine.memory = s.content
  room_eq : room h.machine = s.room

variable {s : Shelf} {h : Host Guest.Record.State} {raw : UInt32} {bytes : ByteArray}

theorem mem_handles {raw : UInt32} : raw ∈ Shelf.handles ↔ HasSlot raw := by
  constructor
  · intro hm
    unfold Shelf.handles at hm
    simp only [List.mem_cons, List.not_mem_nil, or_false] at hm
    rcases hm with rfl | rfl | rfl | rfl <;> exact ⟨by decide, by decide⟩
  · rintro ⟨h₁, h₂⟩
    unfold Guest.Record.slots at h₂
    have hn : raw.toNat = 1 ∨ raw.toNat = 2 ∨ raw.toNat = 3 ∨ raw.toNat = 4 := by omega
    unfold Shelf.handles
    simp only [List.mem_cons, List.not_mem_nil, or_false, ← UInt32.toNat_inj]
    exact hn

theorem vacant?_eq_none (hv : s.vacant? = none) (x : UInt32) (hx : HasSlot x) :
    s.content x ≠ none := by
  intro hn
  have := List.find?_eq_none.1 hv x (mem_handles.2 hx)
  rw [hn] at this
  exact this rfl

theorem vacant?_eq_some (hv : s.vacant? = some raw) :
    HasSlot raw ∧ s.content raw = none ∧ ∀ x, HasSlot x → x < raw → s.content x ≠ none := by
  obtain ⟨hn, below, above, hl, hb⟩ := List.find?_eq_some_iff_append.1 hv
  have hm : raw ∈ Shelf.handles := List.mem_of_find?_eq_some hv
  refine ⟨mem_handles.1 hm, Option.isNone_iff_eq_none.1 hn, fun x hx hlt he => ?_⟩
  -- the handles ascend, so a lower one stands before `raw`
  have hp : (below ++ raw :: above).Pairwise (· < ·) := by
    rw [← hl]
    decide
  have hx' : x ∈ below ++ raw :: above := by
    rw [← hl]
    exact mem_handles.2 hx
  have hxb : x ∈ below := by
    rcases List.mem_append.1 hx' with hb | hr
    · exact hb
    · rcases List.mem_cons.1 hr with rfl | ha
      · exact absurd hlt (UInt32.lt_irrefl _)
      · have := (List.pairwise_cons.1 (List.pairwise_append.1 hp).2.1).1 x ha
        exact absurd (UInt32.lt_trans hlt this) (UInt32.lt_irrefl _)
  have := hb x hxb
  rw [he] at this
  cases this

theorem Shows.dead (k : Shows s h) (hn : s.content raw = none) :
    slotOf? h.machine.memory raw = none := by
  rw [← k.content_eq] at hn
  exact Guest.Record.stringOf?_eq_none_iff.1 hn

/-- The string of a live handle lies inside the memory, where the table says. -/
theorem Shows.live (k : Shows s h) (hb : s.content raw = some bytes) :
    ∃ p n, slotOf? h.machine.memory raw = some (slotAddress raw) ∧
      Bytes.wordAt h.machine.memory (slotAddress raw + 8) = p ∧
      Bytes.wordAt h.machine.memory (slotAddress raw + 12) = n ∧
      p ≠ 0 ∧ n.toNat = bytes.size ∧ p.toNat + n.toNat < h.machine.memory.size ∧
      h.machine.memory.extract p.toNat (p.toNat + n.toNat) = bytes := by
  rw [← k.content_eq] at hb
  unfold stringOf? at hb
  obtain ⟨slot, hs, he⟩ := Option.map_eq_some_iff.1 hb
  obtain ⟨-, rfl, -⟩ := Guest.Record.slotOf?_eq_some_iff.1 hs
  obtain ⟨h₁, h₂⟩ := k.laidOut.region hs
  have h₃ := k.laidOut.heap_le
  have h₄ := k.laidOut.size_eq
  refine ⟨_, _, hs, rfl, rfl, ?_, ?_, by omega, he⟩
  · intro hz
    rw [hz] at h₁
    exact absurd h₁ (by decide)
  · rw [← he, ByteArray.size_extract]
    omega

/-! ## Calls that only look -/

theorem Shows.len_live (k : Shows s h) (hb : s.content raw = some bytes) :
    ∃ n, h.len raw = .ok n h [] ∧ n.toNat = bytes.size := by
  obtain ⟨p, n, hs, -, rfl, -, hn, -⟩ := k.live hb
  refine ⟨_, call_still ?_, hn⟩
  rw [k.guest_eq]
  exact Guest.Record.slotWord_live hs 12

theorem Shows.len_dead (k : Shows s h) (hn : s.content raw = none) : h.len raw = .ok 0 h [] := by
  refine call_still ?_
  rw [k.guest_eq]
  exact Guest.Record.slotWord_dead (k.dead hn) 12

theorem Shows.ptr_live (k : Shows s h) (hb : s.content raw = some bytes) :
    ∃ p, h.ptr raw = .ok p h [] ∧ p ≠ 0 ∧ p.toNat + bytes.size < h.machine.memory.size ∧
      h.machine.memory.extract p.toNat (p.toNat + bytes.size) = bytes := by
  obtain ⟨p, n, hs, rfl, -, hp, hn, hm, he⟩ := k.live hb
  rw [hn] at hm he
  refine ⟨_, call_still ?_, hp, hm, he⟩
  rw [k.guest_eq]
  exact Guest.Record.slotWord_live hs 8

theorem Shows.ptr_dead (k : Shows s h) (hn : s.content raw = none) : h.ptr raw = .ok 0 h [] := by
  refine call_still ?_
  rw [k.guest_eq]
  exact Guest.Record.slotWord_dead (k.dead hn) 8

theorem Shows.size_lt (k : Shows s h) : h.machine.memory.size < UInt64.size := by
  rw [k.laidOut.size_eq]
  decide

theorem Shows.read_live (k : Shows s h) (hb : s.content raw = some bytes) :
    ∃ es, h.read raw = .ok bytes h es := by
  obtain ⟨n, hl, hn⟩ := k.len_live hb
  obtain ⟨p, hp, hz, hm, he⟩ := k.ptr_live hb
  have hr : readRegion h.machine.memory p.toUInt64 n.toUInt64 = .ok bytes := by
    rw [readRegion_of_le k.size_lt (by rw [UInt32.toNat_toUInt64, UInt32.toNat_toUInt64]; omega),
      UInt32.toNat_toUInt64, UInt32.toNat_toUInt64, hn, he]
  refine ⟨[.remoteRead n.toNat raw p.toNat], ?_⟩
  unfold read
  rw [andThen_ok hl, andThen_ok hp, if_neg hz, hr]

theorem Shows.read_dead (k : Shows s h) (hn : s.content raw = none) :
    h.read raw = .failed (.boundary (.invalidHandle raw)) h [] := by
  unfold read
  rw [andThen_ok (k.len_dead hn), andThen_ok (k.ptr_dead hn), if_pos rfl]

/-! ## Creation -/

open Guest.Record (defaultText)

/-- A string laid out in the guest's memory is put on the shelf. -/
theorem Shows.of_stores {h' : Host Guest.Record.State} (k : Shows s h) (hg : h'.guest = h.guest)
    (st : Guest.Record.Stores h.machine raw bytes h'.machine) : Shows (s.put raw bytes) h' where
  guest_eq := hg.trans k.guest_eq
  laidOut := k.laidOut.of_stores st
  content_eq := by
    rw [Guest.Record.stringOf?_of_stores k.laidOut st, k.content_eq]
    rfl
  room_eq := by
    rw [Guest.Record.room_of_stores st, k.room_eq]
    rfl

theorem Shows.create_made (k : Shows s h) (hv : s.vacant? = some raw)
    (hr : defaultText.size < s.room) :
    h.create.result = .ok raw ∧ Shows (s.put raw defaultText) h.create.state := by
  obtain ⟨hs, hd, hl⟩ := vacant?_eq_some hv
  rw [← k.content_eq] at hd hl
  rw [← k.room_eq] at hr
  have hc := Guest.Record.create_of_room k.laidOut hs hd hl hr
  have hg : h.guest.create = Guest.Record.create := by
    rw [k.guest_eq]
    rfl
  unfold create call
  rw [hg]
  refine ⟨?_, k.of_stores rfl hc.2⟩
  show Except.mapError _ (Guest.Record.create h.machine).result = _
  rw [hc.1]
  rfl

theorem Shows.create_refused (k : Shows s h)
    (hn : s.vacant? = none ∨ s.room ≤ defaultText.size) : h.create = .ok 0 h [] := by
  refine call_still ?_
  rw [k.guest_eq]
  refine Guest.Record.create_of_no_room k.laidOut ?_
  rw [k.content_eq, k.room_eq]
  rcases hn with hv | hr
  · exact Or.inl (vacant?_eq_none hv)
  · exact Or.inr hr

theorem HasSlot.ne_invalid (hs : HasSlot raw) : raw ≠ invalidHandle := by
  have h₁ := hs.1
  intro he
  rw [he] at h₁
  exact absurd h₁ (by decide)

theorem Shows.instantiate_made (k : Shows s h) (hv : s.vacant? = some raw)
    (hr : defaultText.size < s.room) :
    h.instantiate.result = .ok raw ∧ Shows (s.put raw defaultText) h.instantiate.state := by
  obtain ⟨hc, hk⟩ := k.create_made hv hr
  have hz : raw ≠ invalidHandle := HasSlot.ne_invalid (vacant?_eq_some hv).1
  unfold instantiate andThen
  rw [hc]
  dsimp only
  rw [if_neg hz]
  exact ⟨rfl, hk⟩

theorem Shows.instantiate_refused (k : Shows s h)
    (hn : s.vacant? = none ∨ s.room ≤ defaultText.size) :
    h.instantiate = .failed (.nothingCreated h.exports.create) h [] := by
  unfold instantiate
  rw [andThen_ok (k.create_refused hn)]
  exact if_pos rfl

/-! ## Writing and destroying -/

/-- A string that is short enough for the guest to add up its addresses. -/
theorem toNat_ofNat_size (short : bytes.size < 2147483648) :
    (UInt32.ofNat bytes.size).toNat = bytes.size :=
  UInt32.toNat_ofNat_of_lt' (by unfold UInt32.size; omega)

theorem write_of_short (raw : UInt32) (short : bytes.size < 2147483648)
    (h : Host Guest.Record.State) : h.write raw bytes =
      andThen (h.reserve raw (UInt32.ofNat bytes.size)) fun offset h =>
        if offset = 0 then
          andThen (h.ptr raw) fun old h =>
            .failed (.boundary (refusal raw bytes.size old)) h []
        else
          match writeRegion h.machine.memory offset.toUInt64 bytes with
          | .ok memory =>
            .ok () { h with machine := { h.machine with memory } }
              [.remoteWritten bytes.size raw offset.toNat]
          | .error cause => .failed (.boundary cause) h [] := by
  unfold write
  exact if_neg (by unfold UInt32.size; omega)

theorem Shows.write_made (k : Shows s h) {old : ByteArray} (ho : s.content raw = some old)
    (short : bytes.size < 2147483648) (hr : bytes.size < s.room) :
    (h.write raw bytes).result = .ok () ∧ Shows (s.put raw bytes) (h.write raw bytes).state := by
  obtain ⟨-, -, hs, -⟩ := k.live ho
  have hn := toNat_ofNat_size short
  rw [← k.room_eq, ← hn] at hr
  obtain ⟨m, hc, hz, hm, hst⟩ := Guest.Record.reserve_of_room k.laidOut hs hr
  have he : h.reserve raw (UInt32.ofNat bytes.size) =
      .ok h.machine.state.heap { h with machine := m } [] := by
    refine call_eq ?_
    rw [k.guest_eq]
    exact hc
  have hf := Guest.Record.nul_fits k.laidOut hr
  have hw : writeRegion m.memory h.machine.state.heap.toUInt64 bytes =
      .ok (Bytes.overwrite m.memory h.machine.state.heap.toNat bytes) := by
    rw [writeRegion_of_le (by rw [hm]; exact k.size_lt)
      (by rw [UInt32.toNat_toUInt64, hm]; omega), UInt32.toNat_toUInt64]
  rw [write_of_short raw short, andThen_ok he, if_neg hz, hw]
  exact ⟨rfl, k.of_stores rfl (hst bytes hn.symm)⟩

theorem Shows.write_full (k : Shows s h) {old : ByteArray} (ho : s.content raw = some old)
    (short : bytes.size < 2147483648) (hr : s.room ≤ bytes.size) :
    h.write raw bytes = .failed (.boundary (.outOfMemory bytes.size)) h [] := by
  have hn := toNat_ofNat_size short
  rw [← k.room_eq, ← hn] at hr
  have he : h.reserve raw (UInt32.ofNat bytes.size) = .ok 0 h [] := by
    refine call_still ?_
    rw [k.guest_eq]
    exact Guest.Record.reserve_of_no_room k.laidOut (by rw [hn]; exact short) hr
  obtain ⟨p, hp, hz, -⟩ := k.ptr_live ho
  rw [write_of_short raw short, andThen_ok he, if_pos rfl, andThen_ok hp, refusal, if_neg hz]

theorem Shows.write_dead (k : Shows s h) (hd : s.content raw = none)
    (short : bytes.size < 2147483648) :
    h.write raw bytes = .failed (.boundary (.invalidHandle raw)) h [] := by
  have he : h.reserve raw (UInt32.ofNat bytes.size) = .ok 0 h [] := by
    refine call_still ?_
    rw [k.guest_eq]
    exact Guest.Record.reserve_dead (k.dead hd) _
  rw [write_of_short raw short, andThen_ok he, if_pos rfl, andThen_ok (k.ptr_dead hd), refusal,
    if_pos rfl]

theorem Shows.destroy (k : Shows s h) (raw : UInt32) :
    (h.destroy raw).result = .ok () ∧
      Shows { s with content := Function.update s.content raw none } (h.destroy raw).state := by
  have hg : h.guest.destroy raw = Guest.Record.destroy raw := by
    rw [k.guest_eq]
    rfl
  unfold Host.destroy call
  rw [hg]
  dsimp only
  cases hd : s.content raw with
  | none =>
    rw [Guest.Record.destroy_dead (k.dead hd)]
    refine ⟨rfl, k.guest_eq, k.laidOut, ?_, k.room_eq⟩
    rw [← hd, Function.update_eq_self]
    exact k.content_eq
  | some bytes =>
    obtain ⟨-, -, hs, -⟩ := k.live hd
    obtain ⟨hr, hc⟩ := Guest.Record.destroy_live k.laidOut hs
    refine ⟨?_, k.guest_eq, k.laidOut.of_clears hc, ?_, ?_⟩
    · rw [hr]
      rfl
    · rw [← k.content_eq]
      exact Guest.Record.stringOf?_of_clears k.laidOut hc
    · rw [← k.room_eq]
      show room _ = _
      unfold room
      rw [hc.state_eq]

/-! ## Any sequence of calls -/

/-- A call that leaves `s` on the shelf and did not fail for a place outside the memory. -/
structure Settles {α : Type} (s : Shelf) (step : Step HostFault (Host Guest.Record.State) α) :
    Prop where
  shows : Shows s step.state
  in_bounds : ∀ offset len size, step.result ≠ .error (.boundary (.outOfBounds offset len size))

theorem Settles.of_result {α : Type} {step : Step HostFault (Host Guest.Record.State) α} {a : α}
    (hr : step.result = .ok a) (k : Shows s step.state) : Settles s step := by
  refine ⟨k, fun offset len size => ?_⟩
  rw [hr]
  exact fun e => nomatch e

theorem Shows.ok {α : Type} (k : Shows s h) (a : α) (es : List Event) :
    Settles s (.ok a h es) := .of_result rfl k

theorem Shows.settles_create (k : Shows s h) : Settles s.made h.create := by
  unfold Shelf.made
  cases hv : s.vacant? with
  | none =>
    rw [k.create_refused (Or.inl hv)]
    exact k.ok 0 []
  | some raw =>
    dsimp only
    split
    · rename_i hr
      have hc := k.create_made hv hr
      exact .of_result hc.1 hc.2
    · rename_i hr
      rw [k.create_refused (Or.inr (Nat.le_of_not_lt hr))]
      exact k.ok 0 []

theorem Shows.settles_instantiate (k : Shows s h) : Settles s.made h.instantiate := by
  unfold Shelf.made
  cases hv : s.vacant? with
  | none =>
    rw [k.instantiate_refused (Or.inl hv)]
    exact ⟨k, fun _ _ _ e => nomatch e⟩
  | some raw =>
    dsimp only
    split
    · rename_i hr
      have hc := k.instantiate_made hv hr
      exact .of_result hc.1 hc.2
    · rename_i hr
      rw [k.instantiate_refused (Or.inr (Nat.le_of_not_lt hr))]
      exact ⟨k, fun _ _ _ e => nomatch e⟩

theorem Shows.settles_len (k : Shows s h) (raw : UInt32) : Settles s (h.len raw) := by
  cases hb : s.content raw with
  | none =>
    rw [k.len_dead hb]
    exact k.ok 0 []
  | some bytes =>
    obtain ⟨n, hl, -⟩ := k.len_live hb
    rw [hl]
    exact k.ok n []

theorem Shows.settles_ptr (k : Shows s h) (raw : UInt32) : Settles s (h.ptr raw) := by
  cases hb : s.content raw with
  | none =>
    rw [k.ptr_dead hb]
    exact k.ok 0 []
  | some bytes =>
    obtain ⟨p, hp, -⟩ := k.ptr_live hb
    rw [hp]
    exact k.ok p []

theorem Shows.settles_read (k : Shows s h) (raw : UInt32) : Settles s (h.read raw) := by
  cases hb : s.content raw with
  | none =>
    rw [k.read_dead hb]
    exact ⟨k, fun _ _ _ e => nomatch e⟩
  | some bytes =>
    obtain ⟨es, he⟩ := k.read_live hb
    rw [he]
    exact k.ok bytes es

theorem Shows.settles_write (k : Shows s h) (raw : UInt32) (short : bytes.size < 2147483648) :
    Settles ((Call.write raw bytes short).next s) (h.write raw bytes) := by
  unfold Call.next
  dsimp only
  cases ho : s.content raw with
  | none =>
    rw [if_neg fun hn => Bool.false_ne_true hn.1, k.write_dead ho short]
    exact ⟨k, fun _ _ _ e => nomatch e⟩
  | some old =>
    split
    · rename_i hr
      have hw := k.write_made ho short hr.2
      exact .of_result hw.1 hw.2
    · rename_i hr
      rw [k.write_full ho short (Nat.le_of_not_lt fun hl => hr ⟨rfl, hl⟩)]
      exact ⟨k, fun _ _ _ e => nomatch e⟩

/-- One call: what it does to the shelf it does to the guest. -/
theorem Shows.settles (k : Shows s h) (c : Call) : Settles (c.next s) (c.play h) := by
  cases c with
  | create => exact k.settles_create
  | instantiate => exact k.settles_instantiate
  | len raw => exact k.settles_len raw
  | ptr raw => exact k.settles_ptr raw
  | read raw => exact k.settles_read raw
  | write raw bytes short => exact k.settles_write raw short
  | destroy raw =>
    have hd := k.destroy raw
    exact .of_result hd.1 hd.2

theorem Shows.after (k : Shows s h) (calls : List Call) :
    Shows (s.after calls) (h.after calls) := by
  induction calls generalizing s h with
  | nil => exact k
  | cons c calls ih => exact ih (k.settles c).shows

/-- How the host answers when the shelf is `s`. What a call then leaves on the shelf is
`Call.next`. -/
structure ActsAs (s : Shelf) (h : Host Guest.Record.State) : Prop where
  live_handle : ∀ {raw}, s.content raw ≠ none → 1 ≤ raw ∧ raw ≤ 4
  /-- The handle of a new instance is the lowest that is not live. -/
  lowest : ∀ {raw}, s.vacant? = some raw →
    s.content raw = none ∧ ∀ x, 1 ≤ x → x < raw → s.content x ≠ none
  full : s.vacant? = none → ∀ x, 1 ≤ x → x ≤ 4 → s.content x ≠ none
  create_made : ∀ {raw}, s.vacant? = some raw → 10 ≤ s.room → h.create.result = .ok raw
  create_refused : s.vacant? = none ∨ s.room < 10 → h.create = .ok 0 h []
  instantiate_made : ∀ {raw}, s.vacant? = some raw → 10 ≤ s.room →
    h.instantiate.result = .ok raw
  instantiate_refused : s.vacant? = none ∨ s.room < 10 →
    h.instantiate = .failed (.nothingCreated h.exports.create) h []
  len_live : ∀ {raw bytes}, s.content raw = some bytes →
    ∃ n, h.len raw = .ok n h [] ∧ n.toNat = bytes.size
  len_dead : ∀ {raw}, s.content raw = none → h.len raw = .ok 0 h []
  /-- The address answered is that of the string, inside the memory. -/
  ptr_live : ∀ {raw bytes}, s.content raw = some bytes →
    ∃ p, h.ptr raw = .ok p h [] ∧ p ≠ 0 ∧ p.toNat + bytes.size < h.machine.memory.size ∧
      h.machine.memory.extract p.toNat (p.toNat + bytes.size) = bytes
  ptr_dead : ∀ {raw}, s.content raw = none → h.ptr raw = .ok 0 h []
  read_live : ∀ {raw bytes}, s.content raw = some bytes → ∃ es, h.read raw = .ok bytes h es
  read_dead : ∀ {raw}, s.content raw = none →
    h.read raw = .failed (.boundary (.invalidHandle raw)) h []
  write_made : ∀ {raw} {bytes : ByteArray}, s.content raw ≠ none → bytes.size < 2147483648 →
    bytes.size + 1 ≤ s.room → (h.write raw bytes).result = .ok ()
  write_full : ∀ {raw} {bytes : ByteArray}, s.content raw ≠ none → bytes.size < 2147483648 →
    s.room < bytes.size + 1 →
      h.write raw bytes = .failed (.boundary (.outOfMemory bytes.size)) h []
  write_dead : ∀ {raw} {bytes : ByteArray}, s.content raw = none → bytes.size < 2147483648 →
    h.write raw bytes = .failed (.boundary (.invalidHandle raw)) h []
  destroy_made : ∀ raw, (h.destroy raw).result = .ok ()
  /-- No call touches, or tries to touch, a place outside the memory. -/
  in_bounds : ∀ (c : Call) offset len size,
    (c.play h).result ≠ .error (.boundary (.outOfBounds offset len size))

/-- The text of a new instance and its nul take ten bytes. -/
theorem defaultText_lt_iff {room : Nat} : defaultText.size < room ↔ 10 ≤ room := by
  rw [Guest.Record.size_defaultText]
  exact Nat.lt_iff_add_one_le

theorem le_defaultText_iff {room : Nat} : room ≤ defaultText.size ↔ room < 10 := by
  rw [← Nat.not_lt, defaultText_lt_iff, Nat.not_le]

theorem hasSlot_of_le {x : UInt32} (h₁ : 1 ≤ x) (h₂ : x ≤ 4) : HasSlot x :=
  ⟨UInt32.le_iff_toNat_le.1 h₁, UInt32.le_iff_toNat_le.1 h₂⟩

theorem Shows.live_handle (k : Shows s h) (hb : s.content raw ≠ none) : 1 ≤ raw ∧ raw ≤ 4 := by
  obtain ⟨bytes, hb⟩ := Option.ne_none_iff_exists'.1 hb
  obtain ⟨-, -, hs, -⟩ := k.live hb
  have hh := (Guest.Record.slotOf?_eq_some_iff.1 hs).1
  exact ⟨UInt32.le_iff_toNat_le.2 hh.1, UInt32.le_iff_toNat_le.2 hh.2⟩

theorem Shows.actsAs (k : Shows s h) : ActsAs s h where
  live_handle := k.live_handle
  lowest := by
    intro raw hv
    obtain ⟨hs, hd, hl⟩ := vacant?_eq_some hv
    refine ⟨hd, fun x h₁ h₂ => hl x (hasSlot_of_le h₁ ?_) h₂⟩
    have h₃ := UInt32.lt_iff_toNat_lt.1 h₂
    have h₄ := hs.2
    unfold Guest.Record.slots at h₄
    rw [UInt32.le_iff_toNat_le]
    show x.toNat ≤ 4
    omega
  full hv x h₁ h₂ := vacant?_eq_none hv x (hasSlot_of_le h₁ h₂)
  create_made hv hr := (k.create_made hv (defaultText_lt_iff.2 hr)).1
  create_refused hn := k.create_refused (hn.imp_right le_defaultText_iff.2)
  instantiate_made hv hr := (k.instantiate_made hv (defaultText_lt_iff.2 hr)).1
  instantiate_refused hn := k.instantiate_refused (hn.imp_right le_defaultText_iff.2)
  len_live := k.len_live
  len_dead := k.len_dead
  ptr_live := k.ptr_live
  ptr_dead := k.ptr_dead
  read_live := k.read_live
  read_dead := k.read_dead
  write_made := by
    intro raw bytes hb short hr
    obtain ⟨old, ho⟩ := Option.ne_none_iff_exists'.1 hb
    exact (k.write_made ho short hr).1
  write_full := by
    intro raw bytes hb short hr
    obtain ⟨old, ho⟩ := Option.ne_none_iff_exists'.1 hb
    exact k.write_full ho short (Nat.le_of_lt_succ hr)
  write_dead := k.write_dead
  destroy_made raw := (k.destroy raw).1
  in_bounds c := (k.settles c).in_bounds

theorem load_recordGuest (level : UInt32) :
    (Host.load (Guest.Record.module .default) .default level).result =
      .ok ⟨Guest.Record.guest, .default, ⟨Guest.Record.initialMemory, ⟨1024, level, none⟩⟩, 0⟩ :=
  rfl

theorem shows_empty (level : UInt32) : Shows .empty
    ⟨Guest.Record.guest, .default, ⟨Guest.Record.initialMemory, ⟨1024, level, none⟩⟩, 0⟩ where
  guest_eq := rfl
  laidOut := Guest.Record.laidOut_initial _ rfl
  content_eq := funext Guest.Record.stringOf?_initialMemory
  room_eq := rfl

/-- Whatever is called, the host answers as the shelf says that those calls lead to. -/
theorem acts_as_shelf (level : UInt32) : ∃ h,
    (Host.load (Guest.Record.module .default) .default level).result = .ok h ∧
      ∀ calls, ActsAs (Shelf.empty.after calls) (h.after calls) :=
  ⟨_, load_recordGuest level, fun calls => ((shows_empty level).after calls).actsAs⟩

end Host

end HandleBridge
