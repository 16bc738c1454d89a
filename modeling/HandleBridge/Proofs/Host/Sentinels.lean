import HandleBridge.Proofs.Host.Copies
import HandleBridge.Proofs.Guest.Convention

/-
  Telling the causes of a zero apart.

  A guest answers every failure with the same zero. The host asks a second time, after the call
  that failed, and concludes from that what went wrong. With a guest that keeps the calling
  convention the conclusion is always right: in whatever state the two are after any calls, a
  read fails exactly for handles that are not live, and a write exactly for those and where room
  was refused, each with its own fault.

  Proved:
  * `Drives.later`: whatever the host does, the guest stays in its possible states.
  * `Drives.read_live`, `Drives.read_dead`, `Drives.write_cases`: a read, and what a write came to.
  * `sentinels_told_apart`: all of it, after any calls.
-/

namespace HandleBridge.Host

open Guest (KeepsConvention Machine Region Reserves contentOf)

variable {σ α β : Type}

/-! ## Any calls -/

/-- `h` is the host `start` after some calls, whatever became of them. -/
inductive Later (start : Host σ) : Host σ → Prop where
  | refl : Later start start
  | create {h} : Later start h → Later start h.create.state
  | instantiate {h} : Later start h → Later start h.instantiate.state
  | ptr {h} (raw : UInt32) : Later start h → Later start (h.ptr raw).state
  | len {h} (raw : UInt32) : Later start h → Later start (h.len raw).state
  | reserve {h} (raw n : UInt32) : Later start h → Later start (h.reserve raw n).state
  | destroy {h} (raw : UInt32) : Later start h → Later start (h.destroy raw).state
  | read {h} (raw : UInt32) : Later start h → Later start (h.read raw).state
  | readString {h} (raw : UInt32) : Later start h → Later start (h.readString raw).state
  | write {h} (raw : UInt32) (bytes : ByteArray) : Later start h →
      Later start (h.write raw bytes).state
  | writeString {h} (raw : UInt32) (text : String) : Later start h →
      Later start (h.writeString raw text).state

/-- What both of two operations keep, the one after the other keeps. -/
theorem state_andThen {P : Host σ → Prop} {first : Step HostFault (Host σ) α}
    {next : α → Host σ → Step HostFault (Host σ) β} (hf : P first.state)
    (hn : ∀ a h, P h → P (next a h).state) : P (andThen first next).state := by
  unfold andThen
  split
  · exact hn _ _ hf
  · exact hf

theorem guest_read (h : Host σ) (raw : UInt32) : (h.read raw).state.guest = h.guest := by
  unfold read
  refine state_andThen (P := fun k => k.guest = h.guest) rfl fun n k hk => ?_
  refine state_andThen (P := fun k => k.guest = h.guest) hk fun offset k hk => ?_
  split
  · exact hk
  · split <;> exact hk

theorem guest_write (h : Host σ) (raw : UInt32) (bytes : ByteArray) :
    (h.write raw bytes).state.guest = h.guest := by
  unfold write
  split
  · rfl
  refine state_andThen (P := fun k => k.guest = h.guest) rfl fun offset k hk => ?_
  split
  · exact state_andThen (P := fun k => k.guest = h.guest) hk fun old k hk => hk
  · split <;> exact hk

/-! ## With a guest that keeps the convention -/

/-- The host drives the guest `g`, which is in a possible state. -/
structure Drives (g : Guest σ) (Possible : Machine σ → Prop) (h : Host σ) : Prop where
  guest_eq : h.guest = g
  possible : Possible h.machine

variable {g : Guest σ} {Possible : Machine σ → Prop}
  {region : Machine σ → UInt32 → Option Region} {h start : Host σ} {raw x : UInt32}
  {bytes : ByteArray}

/-- A live handle is read, also if its content is empty. -/
theorem Drives.read_live (d : Drives g Possible h) (k : KeepsConvention g Possible region)
    (hc : contentOf region h.machine raw = some bytes) :
    ReadOutcome h raw (.ok bytes) h.machine := by
  obtain ⟨r, hr, rfl⟩ := Option.map_eq_some_iff.1 hc
  obtain ⟨p, logs, hp⟩ := k.ptr_still d.possible raw
  obtain ⟨n, logs', hn⟩ := k.len_still d.possible raw
  obtain ⟨h₁, h₂, h₃, h₄⟩ := k.live d.possible hr
  rw [hp] at h₁
  rw [hn] at h₂
  cases h₁
  cases h₂
  rw [← d.guest_eq] at hp hn
  obtain ⟨hi, hs⟩ := Bytes.standAt_extract h₄
  exact .copied hn hp h₃ hs hi

theorem Drives.ptr_dead (d : Drives g Possible h) (k : KeepsConvention g Possible region)
    (hc : contentOf region h.machine raw = none) :
    ∃ logs, h.guest.ptr raw h.machine = ⟨.ok 0, h.machine, logs⟩ := by
  obtain ⟨p, logs, hp⟩ := k.ptr_still d.possible raw
  have hz := k.dead d.possible (Guest.contentOf_eq_none_iff.1 hc)
  rw [hp] at hz
  cases hz
  rw [d.guest_eq]
  exact ⟨logs, hp⟩

theorem Drives.read_dead (d : Drives g Possible h) (k : KeepsConvention g Possible region)
    (hc : contentOf region h.machine raw = none) :
    ReadOutcome h raw (.error (.boundary (.invalidHandle raw))) h.machine := by
  obtain ⟨n, logs', hn⟩ := k.len_still d.possible raw
  obtain ⟨logs, hp⟩ := d.ptr_dead k hc
  rw [← d.guest_eq] at hn
  exact .nowhere hn hp

theorem Drives.ptr_live (d : Drives g Possible h) (k : KeepsConvention g Possible region)
    (hc : contentOf region h.machine raw ≠ none) :
    ∃ p logs, h.guest.ptr raw h.machine = ⟨.ok p, h.machine, logs⟩ ∧ p ≠ 0 := by
  obtain ⟨r, hr⟩ := Option.ne_none_iff_exists'.1 fun hn => hc (Guest.contentOf_eq_none_iff.2 hn)
  obtain ⟨p, logs, hp⟩ := k.ptr_still d.possible raw
  obtain ⟨h₁, -, h₃, -⟩ := k.live d.possible hr
  rw [hp] at h₁
  cases h₁
  rw [d.guest_eq]
  exact ⟨r.offset, logs, hp, h₃⟩

/-- What a write came to: the handle is not live, or room was refused, and all content is as
before; or the bytes are the content of the handle, and all other content is as before. -/
theorem Drives.write_cases (d : Drives g Possible h) (k : KeepsConvention g Possible region)
    (raw : UInt32) (hb : bytes.size < UInt32.size) :
    let refused := (h.reserve raw (UInt32.ofNat bytes.size)).result = .ok 0
    let before := contentOf region h.machine
    (before raw = none ∧ ∃ m, Possible m ∧ contentOf region m = before ∧
        WriteOutcome h raw bytes (.error (.boundary (.invalidHandle raw))) m) ∨
      (before raw ≠ none ∧ refused ∧ ∃ m, Possible m ∧ contentOf region m = before ∧
        WriteOutcome h raw bytes (.error (.boundary (.outOfMemory bytes.size))) m) ∨
      (before raw ≠ none ∧ ¬ refused ∧ ∃ m, Possible m ∧
        contentOf region m = Function.update before raw (some bytes) ∧
        WriteOutcome h raw bytes (.ok ()) m) := by
  intro refused before
  obtain ⟨p, m, logs, hr, hm, hd, hz, hg⟩ := k.reserve d.possible raw (UInt32.ofNat bytes.size)
  rw [← d.guest_eq] at hr
  have hp : refused ↔ p = 0 := by
    show Except.mapError _ (h.guest.reserve raw _ h.machine).result = _ ↔ _
    rw [hr]
    exact Except.ok.injEq p 0 ▸ Iff.rfl
  by_cases h₀ : p = 0
  · subst h₀
    -- the second question is asked of the machine that the refusal left
    have d' : Drives g Possible { h with machine := m } := ⟨d.guest_eq, hm⟩
    have hc := hz rfl
    by_cases hl : before raw = none
    · obtain ⟨logs', hq⟩ := d'.ptr_dead k (by rw [hc]; exact hl)
      exact Or.inl ⟨hl, m, hm, hc, .nowhere hb hr hq⟩
    · obtain ⟨old, logs', hq, ho⟩ := d'.ptr_live k (by rw [hc]; exact hl)
      exact Or.inr (Or.inl ⟨hl, hp.2 rfl, m, hm, hc, .refused hb hr hq ho⟩)
  · have hn : (UInt32.ofNat bytes.size).toNat = bytes.size := UInt32.toNat_ofNat_of_lt' hb
    have e := hg h₀
    obtain ⟨-, -, -, hs⟩ := k.live hm e.region_eq
    have hl : before raw ≠ none := fun hl => h₀ (hd (Guest.contentOf_eq_none_iff.1 hl))
    have hi : p.toNat + bytes.size ≤ m.memory.size := by
      rw [← hn]
      exact hs
    refine Or.inr (Or.inr ⟨hl, fun hf => h₀ (hp.1 hf), _, (e.filled bytes hn.symm).1, ?_,
      .copied hb hr h₀ (Bytes.replaced_overwrite hi)⟩)
    funext x
    by_cases hx : x = raw
    · rw [hx, Function.update_self]
      exact e.content_filled hs hn.symm
    · rw [Function.update_of_ne hx]
      exact e.content_filled_other hs hn.symm hx

theorem Drives.read (d : Drives g Possible h) (k : KeepsConvention g Possible region)
    (raw : UInt32) : (h.read raw).state.machine = h.machine ∧
      Drives g Possible (h.read raw).state := by
  have hm : (h.read raw).state.machine = h.machine := by
    cases hc : contentOf region h.machine raw with
    | none => exact (read_of_outcome (d.read_dead k hc)).2
    | some bytes => exact (read_of_outcome (d.read_live k hc)).2
  refine ⟨hm, (guest_read h raw).trans d.guest_eq, ?_⟩
  rw [hm]
  exact d.possible

theorem Drives.write (d : Drives g Possible h) (k : KeepsConvention g Possible region)
    (raw : UInt32) (bytes : ByteArray) : Drives g Possible (h.write raw bytes).state := by
  refine ⟨(guest_write h raw bytes).trans d.guest_eq, ?_⟩
  by_cases hb : UInt32.size ≤ bytes.size
  · rw [(write_of_outcome (.tooLong hb : WriteOutcome h raw bytes _ _)).2]
    exact d.possible
  · obtain ⟨-, m, hm, -, o⟩ | ⟨-, -, m, hm, -, o⟩ | ⟨-, -, m, hm, -, o⟩ :=
      d.write_cases k raw (Nat.lt_of_not_le hb)
    all_goals
      rw [(write_of_outcome o).2]
      exact hm

/-- A call that leaves a possible state. -/
theorem Drives.call {name : String} {code : Guest.Code σ α} (d : Drives g Possible h)
    (hp : Possible (code h.machine).machine) : Drives g Possible (h.call name code).state :=
  ⟨d.guest_eq, hp⟩

theorem Drives.create (d : Drives g Possible h) (k : KeepsConvention g Possible region) :
    Drives g Possible h.create.state := by
  refine d.call ?_
  rw [d.guest_eq]
  exact k.create d.possible

/-- Whatever the host did, it drives the guest in a possible state. -/
theorem Drives.later (d : Drives g Possible start) (k : KeepsConvention g Possible region)
    (l : Later start h) : Drives g Possible h := by
  induction l with
  | refl => exact d
  | create _ ih => exact ih.create k
  | instantiate _ ih =>
    refine state_andThen (ih.create k) fun handle h hd => ?_
    split <;> exact hd
  | ptr raw _ ih =>
    obtain ⟨p, logs, hp⟩ := k.ptr_still ih.possible raw
    refine ih.call ?_
    rw [ih.guest_eq, hp]
    exact ih.possible
  | len raw _ ih =>
    obtain ⟨n, logs, hn⟩ := k.len_still ih.possible raw
    refine ih.call ?_
    rw [ih.guest_eq, hn]
    exact ih.possible
  | reserve raw n _ ih =>
    obtain ⟨p, m, logs, hr, hm, -⟩ := k.reserve ih.possible raw n
    refine ih.call ?_
    rw [ih.guest_eq, hr]
    exact hm
  | destroy raw _ ih =>
    refine ⟨ih.guest_eq, ?_⟩
    show Possible (Guest.destroy _ raw _).machine
    rw [ih.guest_eq]
    exact k.destroy ih.possible raw
  | read raw _ ih => exact (ih.read k raw).2
  | readString raw _ ih =>
    refine state_andThen (ih.read k raw).2 fun bytes h hd => ?_
    split <;> exact hd
  | write raw bytes _ ih => exact ih.write k raw bytes
  | writeString raw text _ ih => exact ih.write k raw text.toUTF8

/-! ## What a caller may conclude -/

/-- How reading and writing under `raw` go on `h`, where `region` says what is live and where its
content lies. -/
structure TellsApart (region : Machine σ → UInt32 → Option Region) (h : Host σ) (raw : UInt32)
    (bytes : ByteArray) : Prop where
  /-- A live handle is read, with its content, also if that is empty. -/
  read_live : ∀ {content}, contentOf region h.machine raw = some content →
    (h.read raw).result = .ok content
  read_fails_iff : (∃ cause, (h.read raw).result = .error cause) ↔ region h.machine raw = none
  read_fault : ∀ {cause}, (h.read raw).result = .error cause →
    cause = .boundary (.invalidHandle raw)
  read_still : (h.read raw).state.machine = h.machine
  write_dead_iff : bytes.size < UInt32.size →
    ((h.write raw bytes).result = .error (.boundary (.invalidHandle raw)) ↔
      region h.machine raw = none)
  write_refused_iff : bytes.size < UInt32.size →
    ((h.write raw bytes).result = .error (.boundary (.outOfMemory bytes.size)) ↔
      region h.machine raw ≠ none ∧ (h.reserve raw (UInt32.ofNat bytes.size)).result = .ok 0)
  write_ok_iff : bytes.size < UInt32.size →
    ((h.write raw bytes).result = .ok () ↔
      region h.machine raw ≠ none ∧ (h.reserve raw (UInt32.ofNat bytes.size)).result ≠ .ok 0)
  /-- More bytes than a word can count are turned away before the guest is asked. -/
  write_long : UInt32.size ≤ bytes.size →
    h.write raw bytes = .failed (.boundary (.outOfMemory bytes.size)) h []
  write_failed : ∀ {cause}, (h.write raw bytes).result = .error cause →
    contentOf region (h.write raw bytes).state.machine = contentOf region h.machine
  /-- What was written is read back, and all others read as they did before. -/
  write_read : (h.write raw bytes).result = .ok () →
    ((h.write raw bytes).state.read raw).result = .ok bytes ∧
      ∀ x, x ≠ raw → ((h.write raw bytes).state.read x).result = (h.read x).result

theorem write_of_long (h : Host σ) (raw : UInt32) (hb : UInt32.size ≤ bytes.size) :
    h.write raw bytes = .failed (.boundary (.outOfMemory bytes.size)) h [] := by
  unfold Host.write
  exact if_pos hb

/-- A read answers by the content alone. -/
theorem Drives.read_result (d : Drives g Possible h) (k : KeepsConvention g Possible region)
    (raw : UInt32) : (h.read raw).result =
      match contentOf region h.machine raw with
      | some bytes => .ok bytes
      | none => .error (.boundary (.invalidHandle raw)) := by
  cases hc : contentOf region h.machine raw with
  | none => exact (read_of_outcome (d.read_dead k hc)).1
  | some bytes => exact (read_of_outcome (d.read_live k hc)).1

/-- A write answers by what is live and by what the guest would say to a reservation. -/
theorem Drives.write_result (d : Drives g Possible h) (k : KeepsConvention g Possible region)
    (raw : UInt32) (hb : bytes.size < UInt32.size) :
    let refused := (h.reserve raw (UInt32.ofNat bytes.size)).result = .ok 0
    let result := (h.write raw bytes).result
    (region h.machine raw = none ∧ result = .error (.boundary (.invalidHandle raw))) ∨
      (region h.machine raw ≠ none ∧ refused ∧
        result = .error (.boundary (.outOfMemory bytes.size))) ∨
      (region h.machine raw ≠ none ∧ ¬ refused ∧ result = .ok ()) := by
  simp only [ne_eq, ← Guest.contentOf_eq_none_iff]
  obtain ⟨hc, m, -, -, o⟩ | ⟨hc, hr, m, -, -, o⟩ | ⟨hc, hr, m, -, -, o⟩ :=
    d.write_cases k raw hb
  · exact Or.inl ⟨hc, (write_of_outcome o).1⟩
  · exact Or.inr (Or.inl ⟨hc, hr, (write_of_outcome o).1⟩)
  · exact Or.inr (Or.inr ⟨hc, hr, (write_of_outcome o).1⟩)

theorem Drives.tellsApart (d : Drives g Possible h) (k : KeepsConvention g Possible region)
    (raw : UInt32) (bytes : ByteArray) : TellsApart region h raw bytes where
  read_live hc := by rw [d.read_result k, hc]
  read_fails_iff := by
    rw [d.read_result k, ← Guest.contentOf_eq_none_iff]
    cases contentOf region h.machine raw <;> simp
  read_fault := by
    intro cause hr
    rw [d.read_result k] at hr
    split at hr <;> cases hr
    rfl
  read_still := (d.read k raw).1
  write_dead_iff hb := by
    obtain ⟨hc, hw⟩ | ⟨hc, hr, hw⟩ | ⟨hc, hr, hw⟩ := d.write_result k raw hb
    all_goals simp [hw, hc]
  write_refused_iff hb := by
    obtain ⟨hc, hw⟩ | ⟨hc, hr, hw⟩ | ⟨hc, hr, hw⟩ := d.write_result k raw hb
    · simp [hw, hc]
    · simp [hw, hc, hr]
    · simp [hw, hc, hr]
  write_ok_iff hb := by
    obtain ⟨hc, hw⟩ | ⟨hc, hr, hw⟩ | ⟨hc, hr, hw⟩ := d.write_result k raw hb
    · simp [hw, hc]
    · simp [hw, hc, hr]
    · simp [hw, hc, hr]
  write_long := write_of_long h raw
  write_failed := by
    intro cause hf
    by_cases hb : UInt32.size ≤ bytes.size
    · rw [write_of_long h raw hb]
      rfl
    · obtain ⟨-, m, -, hm, o⟩ | ⟨-, -, m, -, hm, o⟩ | ⟨-, -, m, -, -, o⟩ :=
        d.write_cases k raw (Nat.lt_of_not_le hb)
      · rw [(write_of_outcome o).2, hm]
      · rw [(write_of_outcome o).2, hm]
      · rw [(write_of_outcome o).1] at hf
        cases hf
  write_read := by
    intro hw
    have hb : bytes.size < UInt32.size := by
      refine Nat.lt_of_not_le fun hb => ?_
      rw [write_of_long h raw hb] at hw
      cases hw
    obtain ⟨-, m, -, -, o⟩ | ⟨-, -, m, -, -, o⟩ | ⟨-, -, m, -, hm, o⟩ :=
      d.write_cases k raw hb
    · rw [(write_of_outcome o).1] at hw
      cases hw
    · rw [(write_of_outcome o).1] at hw
      cases hw
    have d' := d.write k raw bytes
    have hc : contentOf region (h.write raw bytes).state.machine =
        Function.update (contentOf region h.machine) raw (some bytes) := by
      rw [(write_of_outcome o).2, hm]
    refine ⟨?_, fun x hx => ?_⟩
    · rw [d'.read_result k, hc, Function.update_self]
    · rw [d'.read_result k, d.read_result k, hc, Function.update_of_ne hx]

/-- With a guest that keeps the convention, whatever was called before: a zero of the guest is
told for what it is, a failure changes no content, and what was written is read back. -/
theorem sentinels_told_apart (k : KeepsConvention g Possible region)
    (d : Drives g Possible start) (l : Later start h) (raw : UInt32) (bytes : ByteArray) :
    TellsApart region h raw bytes :=
  (d.later k l).tellsApart k raw bytes

/-! ### The reference guest -/

section Careful

open Guest.Record (LaidOut HasSlot defaultText careful careful_keepsConvention regionOf
  contentOf_regionOf room stringOf? stringOf?_initialMemory)

variable {h : Host Guest.Record.State}

theorem reserve_careful (d : Drives careful LaidOut h) {p n : UInt32}
    (hn : n.toNat < 2147483648)
    (hr : (Guest.Record.reserve raw n h.machine).result = .ok p) :
    (h.reserve raw n).result = .ok p := by
  show Except.mapError _ (h.guest.reserve raw n h.machine).result = _
  rw [d.guest_eq, Guest.Record.careful_reserve_of_short hn, hr]
  rfl

theorem not_lt_one_of_hasSlot {x : UInt32} (hx : HasSlot x) : ¬ x < 1 :=
  fun hlt => Nat.not_lt.2 hx.1 (UInt32.lt_iff_toNat_lt.1 hlt)

/-- The first instance has handle 1, and the empty string still fits. -/
theorem create_first (d : Drives careful LaidOut h)
    (he : stringOf? h.machine.memory = fun _ => none) (hr : defaultText.size + 1 < room h.machine) :
    contentOf regionOf h.create.state.machine =
        Function.update (fun _ => none) 1 (some defaultText) ∧
      (h.create.state.reserve 1 0).result ≠ .ok 0 := by
  obtain ⟨-, hs⟩ := Guest.Record.create_of_room (h := 1) d.possible ⟨by decide, by decide⟩
    (congrFun he 1) (fun x hx hlt => absurd hlt (not_lt_one_of_hasSlot hx)) (by omega)
  have d' := d.create careful_keepsConvention
  have hm : h.create.state.machine = (Guest.Record.create h.machine).machine := by
    show (h.guest.create h.machine).machine = _
    rw [d.guest_eq]
    rfl
  rw [← hm] at hs
  refine ⟨?_, ?_⟩
  · rw [contentOf_regionOf, Guest.Record.stringOf?_of_stores d.possible hs, he]
  · have hr : (0 : UInt32).toNat < room h.create.state.machine := by
      rw [Guest.Record.room_of_stores hs]
      exact Nat.sub_pos_of_lt hr
    obtain ⟨m, hq, hz, -⟩ := Guest.Record.reserve_of_room d'.possible hs.slotOf?_eq hr
    rw [reserve_careful d' (by decide) (congrArg (·.result) hq)]
    exact fun e => hz (Except.ok.inj e)

/-- The reference guest that turns away huge lengths, as it is loaded. -/
def carefulRecord : Host Guest.Record.State :=
  ⟨careful, .default, ⟨Guest.Record.initialMemory, ⟨1024, 0, none⟩⟩, 0⟩

theorem drives_carefulRecord : Drives careful LaidOut carefulRecord :=
  ⟨rfl, Guest.Record.laidOut_initial _ rfl⟩

/-- An instance is made and emptied. It is read as the empty string, handle 2 is told from it,
and a string that does not fit is refused. -/
theorem emptied_and_overfilled :
    let h := (carefulRecord.create.state.write 1 ByteArray.empty).state
    (h.read 1).result = .ok ByteArray.empty ∧
      (h.read 2).result = .error (.boundary (.invalidHandle 2)) ∧
      (h.write 2 ByteArray.empty).result = .error (.boundary (.invalidHandle 2)) ∧
      (h.write 1 (Bytes.zeros 65536)).result = .error (.boundary (.outOfMemory 65536)) := by
  have k := careful_keepsConvention
  have d := drives_carefulRecord
  have c : Later carefulRecord carefulRecord.create.state := .create .refl
  obtain ⟨hc, hr⟩ := create_first d (funext stringOf?_initialMemory) (by decide)
  generalize carefulRecord.create.state = h₀ at *
  intro h
  have w : Later carefulRecord h := .write 1 ByteArray.empty c
  have hc₁ : regionOf h₀.machine 1 ≠ none := fun hn => by
    rw [← Guest.contentOf_eq_none_iff, hc, Function.update_self] at hn
    cases hn
  have hc₂ : regionOf h₀.machine 2 = none := by
    rw [← Guest.contentOf_eq_none_iff, hc, Function.update_of_ne (by decide)]
  have t₁ := sentinels_told_apart k d c 1 ByteArray.empty
  have t₂ := sentinels_told_apart k d c 2 ByteArray.empty
  obtain ⟨h₁, hx⟩ := t₁.write_read ((t₁.write_ok_iff (by decide)).2 ⟨hc₁, hr⟩)
  -- handle 2 was not live before the write, and the write leaves its answers as they were
  have h₂ : (h.read 2).result = .error (.boundary (.invalidHandle 2)) := by
    obtain ⟨cause, hf⟩ := t₂.read_fails_iff.2 hc₂
    rw [← t₂.read_fault hf, ← hf]
    exact hx 2 (by decide)
  have u₁ := sentinels_told_apart k d w 1 (Bytes.zeros 65536)
  have u₂ := sentinels_told_apart k d w 2 ByteArray.empty
  refine ⟨h₁, h₂, (u₂.write_dead_iff (by decide)).2 (u₂.read_fails_iff.1 ⟨_, h₂⟩), ?_⟩
  have hs := Bytes.size_zeros 65536
  generalize Bytes.zeros 65536 = long at *
  have hb : long.size < UInt32.size := by
    rw [hs]
    decide
  rw [← hs]
  refine (u₁.write_refused_iff hb).2 ⟨fun hn => ?_, ?_⟩
  · obtain ⟨cause, hf⟩ := u₁.read_fails_iff.2 hn
    cases h₁.symm.trans hf
  · have hn : (UInt32.ofNat long.size).toNat = 65536 := by
      rw [hs]
      rfl
    have d' := d.later k w
    refine reserve_careful d' (by rw [hn]; decide) (congrArg (·.result)
      (Guest.Record.reserve_of_no_room d'.possible (by rw [hn]; decide) ?_))
    rw [hn]
    exact Nat.sub_le _ _

end Careful

end HandleBridge.Host
