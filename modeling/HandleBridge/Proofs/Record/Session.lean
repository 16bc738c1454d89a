import HandleBridge.Proofs.Record.Calls

/-
  Sessions: what the other side reads is what it wrote.

  A session is any sequence of calls, on any handles, with the copies of the other side in
  between. `known` is what the other side can tell from its calls and their answers: which
  handles are live, and which string each of them has. The invariant is that the world keeps
  what is known (`Keeps`), and every call keeps it so (`Keeps.play`).

  Proved:
  * `Keeps.fetch_eq`: length, address and copy give the string of a live handle.
  * `Keeps.write_eq`, `Keeps.read_eq`: copying by address is editing and reading by handle.
  * `Keeps.play`: the step of the invariant, for all calls.
  * `session_round_trip`: what holds in every state of a session.
-/

namespace HandleBridge.Record

open Script World

/-! ## The other side -/

/-- A call of the other side. A `set` asks for as much room as `bytes` takes; when an address is
answered, the other side copies `bytes` there before it calls again. -/
inductive Call where
  | create
  | address (raw : UInt32)
  | length (raw : UInt32)
  | set (raw : UInt32) (bytes : ByteArray) (fits : bytes.size < UInt32.size)
  | destroy (raw : UInt32)

/-- The other side reads a string: its length, its address, then a copy from there. -/
def fetch (raw : UInt32) (w : World catalog) :
    Except (Abort catalog) (Outcome catalog (Option ByteArray)) := do
  let o ← (length raw).run w
  let o' ← (address raw).run o.world
  let bytes := if o'.value = 0 then none else peek o'.world o'.value o.value.toNat
  pure ⟨bytes, o'.world, o.events ++ o'.events⟩

namespace Call

/-- The type of a call's answer. -/
abbrev Answer : Call → Type
  | create => UInt32
  | address _ => Nat
  | length _ => UInt32
  | set _ _ _ => Nat
  | destroy _ => Unit

/-- Plays a call, and the copy that follows it. -/
def play : (c : Call) → World catalog → Except (Abort catalog) (Outcome catalog c.Answer)
  | create, w => Record.create.run w
  | address raw, w => (Record.address raw).run w
  | length raw, w => (Record.length raw).run w
  | set raw bytes _, w =>
    match (reserve raw (UInt32.ofNat bytes.size)).run w with
    | .error a => .error a
    | .ok o => .ok ⟨o.value, if o.value = 0 then o.world else poke o.world o.value bytes, o.events⟩
  | destroy raw, w => (Record.destroy raw).run w

/-- What the other side knows after a call, from the answer. -/
def learn : (c : Call) → c.Answer → Known → Known
  | create, h, m => if h = invalidHandle then m else Function.update m h (some "hey there".toUTF8)
  | address _, _, m => m
  | length _, _, m => m
  | set raw bytes _, a, m => if a = 0 then m else Function.update m raw (some bytes)
  | destroy raw, _, m => Function.update m raw none

theorem play_set {raw : UInt32} {bytes : ByteArray} {fits : bytes.size < UInt32.size}
    {w : World catalog} {o : Outcome catalog Nat}
    (e : (reserve raw (UInt32.ofNat bytes.size)).run w = .ok o) :
    (set raw bytes fits).play w =
      .ok ⟨o.value, if o.value = 0 then o.world else poke o.world o.value bytes, o.events⟩ := by
  simp only [play, e]

theorem learn_create_invalid (m : Known) : create.learn invalidHandle m = m := by
  rw [learn, if_pos rfl]

theorem learn_create {h : UInt32} (hh : h ≠ invalidHandle) (m : Known) :
    create.learn h m = Function.update m h (some "hey there".toUTF8) := if_neg hh

theorem learn_set_zero {raw : UInt32} {bytes : ByteArray} (fits : bytes.size < UInt32.size)
    (m : Known) : (set raw bytes fits).learn 0 m = m := by
  rw [learn, if_pos rfl]

theorem learn_set {raw : UInt32} {bytes : ByteArray} (fits : bytes.size < UInt32.size) {a : Nat}
    (ha : a ≠ 0) (m : Known) :
    (set raw bytes fits).learn a m = Function.update m raw (some bytes) := if_neg ha

/-- The calls that are meant to change what a handle reads: a `set` of it that was answered by an
address, and its end. -/
def Concerns (raw : UInt32) : (c : Call) → c.Answer → Prop
  | create, _ => False
  | address _, _ => False
  | length _, _ => False
  | set h _ _, a => h = raw ∧ a ≠ 0
  | destroy h, _ => h = raw

end Call

/-- The calls of a session with their answers, the latest first. -/
abbrev Past := List (Σ c : Call, c.Answer)

/-- What the other side knows after all these calls. -/
def known : Past → Known
  | [] => fun _ => none
  | ⟨c, a⟩ :: past => c.learn a (known past)

/-- Whatever the other side calls, one call after another, as long as the allocator is sound. -/
inductive Session (heap : Heap) : Past → World catalog → Prop where
  | start : Session heap [] (World.empty catalog heap)
  | call {past : Past} {w : World catalog} (c : Call) {o : Outcome catalog c.Answer}
      (before : Session heap past w) (sound : AllocatorSound w) (played : c.play w = .ok o) :
      Session heap (⟨c, o.value⟩ :: past) o.world

/-! ## Reading -/

variable {m : Known} {w : World catalog} {raw : UInt32} {r : Record} {bytes : ByteArray}

theorem Keeps.length_eq (k : Keeps m w) (hm : m raw = some bytes) :
    ∃ len es, (length raw).run w = .ok ⟨len, w, es⟩ ∧ len.toNat = bytes.size := by
  obtain ⟨r, hl, hr⟩ := k.exists_record hm
  exact ⟨r.content.len, [], length_live k.free hl, hr.toNat_len⟩

theorem Keeps.fetch_eq (k : Keeps m w) (raw : UInt32) :
    ∃ es, fetch raw w = .ok ⟨m raw, w, es⟩ := by
  unfold fetch
  cases hm : m raw with
  | none =>
    have hd := k.not_mem hm
    rw [length_dead k.free hd]
    simp only [bind, Except.bind]
    rw [address_dead k.free hd]
    exact ⟨_, rfl⟩
  | some bytes =>
    obtain ⟨r, hl, hr⟩ := k.exists_record hm
    rw [length_live k.free hl]
    simp only [bind, Except.bind]
    rw [address_live k.free hl]
    dsimp only
    rw [if_neg hr.address_ne, hr.toNat_len, k.peek_eq hl hm]
    exact ⟨_, rfl⟩

/-- Reading by address finds what reading by handle does. -/
theorem Keeps.read_eq (k : Keeps m w) (raw : UInt32) : Record.read raw w = fetch raw w := by
  unfold Record.read fetch
  cases hm : m raw with
  | none =>
    have hd := k.not_mem hm
    rw [length_dead k.free hd]
    simp only [bind, Except.bind]
    rw [address_dead k.free hd]
    rfl
  | some bytes =>
    obtain ⟨r, hl, hr⟩ := k.exists_record hm
    rw [length_live k.free hl]
    simp only [bind, Except.bind]
    rw [address_live k.free hl]
    dsimp only
    rw [if_neg hr.address_ne, if_neg hr.address_ne, hr.toNat_len, k.peek_eq hl hm,
      get_of_lookup hl]
    dsimp only
    rw [hr.extract_eq]

/-! ## The step of the invariant -/

/-- A call on `w` is answered, what the other side learns from it is kept, and of the live
handles only those that the call concerns read otherwise. -/
def Call.Settles (c : Call) (m : Known) (w : World catalog) : Prop :=
  ∃ o, c.play w = .ok o ∧ Keeps (c.learn o.value m) o.world ∧
    ∀ raw, (m raw).isSome → ¬ c.Concerns raw o.value → c.learn o.value m raw = m raw

theorem Keeps.play_create (k : Keeps m w) (s : AllocatorSound w) : Call.create.Settles m w := by
  rcases k.create_cases s with ⟨es, he⟩ | ⟨h, w', es, he, hn, hk⟩
  · have hs := Call.learn_create_invalid m
    refine ⟨_, he, ?_, fun raw _ _ => congrFun hs raw⟩
    rw [hs]
    exact k.ticked.ticked
  · have hs := Call.learn_create h.raw_ne_invalidHandle m
    refine ⟨_, he, ?_, ?_⟩
    · rw [hs]
      exact hk
    -- the new handle was dead, so it is none of those that read something before
    · intro raw hr _
      rw [hs]
      refine Function.update_of_ne ?_ _ _
      intro e
      rw [e, hn] at hr
      exact Bool.false_ne_true hr

theorem Keeps.play_address (k : Keeps m w) (raw : UInt32) : (Call.address raw).Settles m w := by
  cases hm : m raw with
  | none => exact ⟨_, address_dead k.free (k.not_mem hm), k, fun _ _ _ => rfl⟩
  | some bytes =>
    obtain ⟨r, hl, -⟩ := k.exists_record hm
    exact ⟨_, address_live k.free hl, k, fun _ _ _ => rfl⟩

theorem Keeps.play_length (k : Keeps m w) (raw : UInt32) : (Call.length raw).Settles m w := by
  cases hm : m raw with
  | none => exact ⟨_, length_dead k.free (k.not_mem hm), k, fun _ _ _ => rfl⟩
  | some bytes =>
    obtain ⟨r, hl, -⟩ := k.exists_record hm
    exact ⟨_, length_live k.free hl, k, fun _ _ _ => rfl⟩

theorem Keeps.play_destroy (k : Keeps m w) (raw : UInt32) : (Call.destroy raw).Settles m w := by
  obtain ⟨w', es, he, hk⟩ := k.destroy_cases raw
  refine ⟨_, he, hk, fun x _ hx => ?_⟩
  exact Function.update_of_ne (Ne.symm hx) _ _

theorem Keeps.play_set (k : Keeps m w) (s : AllocatorSound w) (raw : UInt32)
    (fits : bytes.size < UInt32.size) : (Call.set raw bytes fits).Settles m w := by
  rcases k.reserve_cases s raw (UInt32.ofNat bytes.size) with
    ⟨w', es, he, hk⟩ | ⟨a, w', es, he, ha, hb, hk⟩
  · have hs : (Call.set raw bytes fits).learn 0 m = m := Call.learn_set_zero fits m
    refine ⟨_, Call.play_set he, ?_, fun x _ _ => congrFun hs x⟩
    rw [hs, if_pos rfl]
    exact hk
  -- the room reads as zeros until the copy puts the bytes in their place
  · have hs : (Call.set raw bytes fits).learn a m = Function.update m raw (some bytes) :=
      Call.learn_set fits ha m
    have hz : bytes.size = (Bytes.zeros (UInt32.ofNat bytes.size).toNat).size := by
      rw [Bytes.size_zeros, UInt32.toNat_ofNat_of_lt' fits]
    have hp := hk.after_poke hb (Function.update_self _ _ _) hz
    rw [Function.update_idem] at hp
    refine ⟨_, Call.play_set he, ?_, ?_⟩
    · rw [hs, if_neg ha]
      exact hp
    · intro x _ hx
      rw [hs]
      exact Function.update_of_ne (fun e => hx ⟨e.symm, ha⟩) _ _

theorem Keeps.play (k : Keeps m w) (s : AllocatorSound w) (c : Call) : c.Settles m w := by
  cases c with
  | create => exact k.play_create s
  | address raw => exact k.play_address raw
  | length raw => exact k.play_length raw
  | set raw bytes fits => exact k.play_set s raw fits
  | destroy raw => exact k.play_destroy raw

/-- Copying to the address that was answered is writing to the record that was named. -/
theorem Keeps.write_eq (k : Keeps m w) (s : AllocatorSound w) (raw : UInt32)
    (fits : bytes.size < UInt32.size) :
    Record.write raw bytes w = ((Call.set raw bytes fits).play w).map fun o =>
      ⟨decide (o.value ≠ 0), o.world, o.events⟩ := by
  unfold Record.write
  rcases k.reserve_cases s raw (UInt32.ofNat bytes.size) with
    ⟨w', es, he, -⟩ | ⟨a, w', es, he, ha, hb, hk⟩
  · rw [Call.play_set he, he]
    rfl
  · have hp : Record.poke w' a bytes = w'.edit 0 raw fun r => ⟨r.content.write 0 bytes⟩ :=
      hk.poke_eq hb bytes
    rw [Call.play_set he, he]
    simp only [bind, Except.bind, Except.map, pure, Except.pure]
    rw [if_neg ha, if_neg ha, hp, decide_eq_true ha]

/-! ## Sessions -/

theorem keeps_empty (heap : Heap) : Keeps (fun _ => none) (World.empty catalog heap) where
  free := isBorrowed_empty heap 0
  wellFormed := by
    rw [store_empty]
    exact Store.wellFormed_empty _ _
  holds raw := by
    rw [store_empty, Store.contents_empty, Finmap.lookup_empty]
    exact .none
  apart := by
    intro x y r q hr
    rw [store_empty, Store.contents_empty, Finmap.lookup_empty] at hr
    cases hr

theorem Session.keeps {heap : Heap} {past : Past} {w : World catalog} (h : Session heap past w) :
    Keeps (known past) w := by
  induction h with
  | start => exact keeps_empty heap
  | call c before sound played ih =>
    obtain ⟨o, hp, hk, -⟩ := ih.play sound c
    rw [played] at hp
    cases hp
    exact hk

/-- What the other side finds in a state of a session. -/
structure RoundTrips (past : Past) (w : World catalog) : Prop where
  /-- Every further call is answered. -/
  answered : ∀ c : Call, AllocatorSound w → ∃ o, c.play w = .ok o
  live_iff : ∀ raw, (w.store 0).contains raw = true ↔ (known past raw).isSome
  /-- A live handle reads as the string that was last written, a dead one as nothing, and reading
  changes nothing. -/
  fetch_eq : ∀ raw, ∃ es, fetch raw w = .ok ⟨known past raw, w, es⟩
  length_eq : ∀ {raw bytes}, known past raw = some bytes →
    ∃ len es, (length raw).run w = .ok ⟨len, w, es⟩ ∧ len.toNat = bytes.size
  /-- A live handle that a call does not concern reads as before. -/
  frame : ∀ {c : Call} {o : Outcome catalog c.Answer} {raw bytes}, AllocatorSound w →
    c.play w = .ok o → known past raw = some bytes → ¬ c.Concerns raw o.value →
      ∃ es, fetch raw o.world = .ok ⟨some bytes, o.world, es⟩
  /-- A dead handle is answered by zero, and nothing changes. -/
  dead : ∀ {raw}, (w.store 0).contains raw = false →
    (∃ es, (address raw).run w = .ok ⟨0, w, es⟩) ∧ (∃ es, (length raw).run w = .ok ⟨0, w, es⟩) ∧
      (∀ n, ∃ es, (reserve raw n).run w = .ok ⟨0, w, es⟩) ∧
      ∃ es, (destroy raw).run w = .ok ⟨(), w, es⟩

theorem Keeps.contains_iff (k : Keeps m w) :
    (w.store 0).contains raw = true ↔ (m raw).isSome := by
  rw [Store.contains_iff_mem_contents]
  exact k.mem_iff

/-- In every state of a session the other side reads what it wrote, whatever it called. -/
theorem session_round_trip {heap : Heap} {past : Past} {w : World catalog}
    (h : Session heap past w) : RoundTrips past w where
  answered c s := by
    obtain ⟨o, hp, -⟩ := h.keeps.play s c
    exact ⟨o, hp⟩
  live_iff _ := h.keeps.contains_iff
  fetch_eq := h.keeps.fetch_eq
  length_eq := h.keeps.length_eq
  frame {c _ raw _} s hp hm hc := by
    obtain ⟨o, ho, hk, hf⟩ := h.keeps.play s c
    rw [hp] at ho
    cases ho
    have he := hf raw (by rw [hm]; rfl) hc
    rw [← hm, ← he]
    exact hk.fetch_eq raw
  dead {raw} hd := by
    have hb := h.keeps.free
    have hn : raw ∉ (w.store 0).contents := by
      rw [← Store.contains_iff_mem_contents, hd]
      exact Bool.false_ne_true
    exact ⟨⟨_, address_dead hb hn⟩, ⟨_, length_dead hb hn⟩, fun n => ⟨_, reserve_dead n hb hn⟩,
      ⟨_, destroy_dead hb hn⟩⟩

/-- The answers of `Heap.capped` are sound as long as the blocks of all live records lie below the
next address. -/
theorem allocatorSound_capped {limit k : Nat} (hh : w.heap = ⟨(Heap.capped limit).answer, k⟩)
    (hl : defaultText.toUTF8.size + 1 ≤ limit) (he : ∀ e ∈ (w.store 0).entries,
      e.2.content.address + e.2.content.data.size ≤ 16 * (k + 1)) : AllocatorSound w := by
  have ha : ∀ {n a : Nat}, w.heap.allocator n = some a → a = 16 * (k + 1) := by
    intro n a ha
    rw [hh] at ha
    simp only [Heap.capped, Heap.allocator] at ha
    split at ha
    · cases ha
      rfl
    · cases ha
  refine ⟨?_, ?_, ?_⟩
  · rw [hh]
    show (if defaultText.toUTF8.size + 1 ≤ limit then _ else none).isSome = true
    rw [if_pos hl]
    rfl
  · intro n a _ hn
    have := ha hn
    omega
  · intro n a _ hn e hm
    have := ha hn
    have := he e hm
    omega

theorem interior_nul_round_trip : ∃ past w, Session (Heap.capped 8388608) past w ∧
    known past 1 = some ⟨#[97, 0, 98]⟩ ∧ RoundTrips past w := by
  have s₀ : AllocatorSound (World.empty catalog (Heap.capped 8388608)) :=
    allocatorSound_capped rfl (by decide) fun e he => nomatch he
  obtain ⟨o, ho⟩ : ∃ o, Call.create.play (World.empty catalog (Heap.capped 8388608)) = .ok o :=
    ⟨_, rfl⟩
  have h₁ := Session.call .create .start s₀ ho
  have hv : o.value = 1 := by
    cases ho
    rfl
  have hh : o.world.heap = ⟨(Heap.capped 8388608).answer, 2⟩ := by
    cases ho
    rfl
  have he : (o.world.store 0).entries =
      [(⟨0, 0, by decide, by decide⟩, ⟨⟨16, defaultText.toUTF8.push 0⟩⟩)] := by
    cases ho
    rfl
  have s₁ : AllocatorSound o.world := by
    refine allocatorSound_capped hh (by decide) ?_
    rw [he]
    intro e hm
    rw [List.mem_singleton.1 hm]
    decide
  obtain ⟨p, hp⟩ : ∃ p, (Call.set 1 ⟨#[97, 0, 98]⟩ (by decide)).play o.world = .ok p := by
    cases ho
    exact ⟨_, rfl⟩
  have hq : p.value = 48 := by
    cases ho
    cases hp
    rfl
  have h₂ := Session.call _ h₁ s₁ hp
  refine ⟨_, _, h₂, ?_, session_round_trip h₂⟩
  show known [⟨_, p.value⟩, ⟨.create, o.value⟩] 1 = _
  rw [hv, hq]
  rfl

end HandleBridge.Record
