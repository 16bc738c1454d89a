import HandleBridge.Proofs.Guest.Calls

/-
  The calling convention between a host and a guest.

  A guest that keeps it has, in every state that it can get into, a region of its memory for each
  live handle. It names that region when it is asked for address and length, and changes nothing
  then. When room is reserved it either refuses, with address zero and all content as before, or
  gives the handle a new region that meets no other; and it keeps no books in that region, so the
  host may fill it. What the guest does when an instance is made or ended is its own business.

  Proved:
  * `Reserves.content_filled`, `Reserves.content_filled_other`: a region that was reserved and
    filled holds the bytes, and all other content is as before.
  * `Record.careful_keepsConvention`: the reference guest keeps the convention once it refuses
    the lengths at which its addresses would wrap.
-/

namespace HandleBridge.Guest

variable {σ : Type}

/-- A part of a memory, as a guest names it. -/
structure Region where
  offset : UInt32
  len : UInt32

namespace Region

/-- The place behind the last byte. -/
def stop (r : Region) : Nat := r.offset.toNat + r.len.toNat

/-- No byte of `r` belongs to `q`. -/
def Apart (r q : Region) : Prop :=
  ∀ i, r.offset.toNat ≤ i → i < r.stop → i < q.offset.toNat ∨ q.stop ≤ i

/-- The bytes of a region. -/
def bytes (r : Region) (memory : ByteArray) : ByteArray :=
  memory.extract r.offset.toNat r.stop

end Region

/-- The content of a handle, given where the guest keeps it; nothing if the handle is not live. -/
def contentOf (region : Machine σ → UInt32 → Option Region) (m : Machine σ) (raw : UInt32) :
    Option ByteArray := (region m raw).map fun r => r.bytes m.memory

/-- From `m` to `m'` the region `r` was reserved for `raw`. -/
structure Reserves (Possible : Machine σ → Prop) (region : Machine σ → UInt32 → Option Region)
    (m : Machine σ) (raw : UInt32) (r : Region) (m' : Machine σ) : Prop where
  region_eq : region m' raw = some r
  kept : ∀ x, x ≠ raw → contentOf region m' x = contentOf region m x
  apart : ∀ {x q}, x ≠ raw → region m' x = some q → q.Apart r
  /-- The guest has no books where the bytes will go. -/
  filled : ∀ bytes : ByteArray, bytes.size = r.len.toNat →
    let full : Machine σ := { m' with memory := Bytes.overwrite m'.memory r.offset.toNat bytes }
    Possible full ∧ region full = region m'

/-- In its `Possible` states the guest keeps the convention, with `region` as the place of each
live handle's content. -/
structure KeepsConvention (g : Guest σ) (Possible : Machine σ → Prop)
    (region : Machine σ → UInt32 → Option Region) : Prop where
  ptr_still : ∀ {m}, Possible m → ∀ raw, ∃ p logs, g.ptr raw m = ⟨.ok p, m, logs⟩
  len_still : ∀ {m}, Possible m → ∀ raw, ∃ n logs, g.len raw m = ⟨.ok n, m, logs⟩
  /-- A live handle has its region inside the memory, and not at address zero. -/
  live : ∀ {m raw r}, Possible m → region m raw = some r →
    (g.ptr raw m).result = .ok r.offset ∧ (g.len raw m).result = .ok r.len ∧
      r.offset ≠ 0 ∧ r.stop ≤ m.memory.size
  dead : ∀ {m raw}, Possible m → region m raw = none → (g.ptr raw m).result = .ok 0
  /-- Room is refused with address zero, to a handle that is not live always. -/
  reserve : ∀ {m}, Possible m → ∀ raw n, ∃ p m' logs, g.reserve raw n m = ⟨.ok p, m', logs⟩ ∧
    Possible m' ∧ (region m raw = none → p = 0) ∧
    (p = 0 → contentOf region m' = contentOf region m) ∧
    (p ≠ 0 → Reserves Possible region m raw ⟨p, n⟩ m')
  create : ∀ {m}, Possible m → Possible (g.create m).machine
  destroy : ∀ {m}, Possible m → ∀ raw, Possible (g.destroy raw m).machine

variable {Possible : Machine σ → Prop} {region : Machine σ → UInt32 → Option Region}
  {m m' : Machine σ} {raw x : UInt32} {r q : Region} {bytes : ByteArray}

theorem contentOf_eq_none_iff : contentOf region m raw = none ↔ region m raw = none :=
  Option.map_eq_none_iff

/-- What lies apart from the bytes written is as before. -/
theorem bytes_overwrite_of_apart {memory : ByteArray} (ha : q.Apart r)
    (hs : bytes.size = r.len.toNat) (hr : r.stop ≤ memory.size) :
    q.bytes (Bytes.overwrite memory r.offset.toNat bytes) = q.bytes memory := by
  have hb : r.offset.toNat + bytes.size ≤ memory.size := by
    rw [hs]
    exact hr
  refine Bytes.extract_congr (Bytes.size_overwrite hb) fun i hi hj => ?_
  refine Bytes.getElem?_overwrite_of_outside hb ?_
  rw [hs]
  exact ha i hi hj

theorem Reserves.content_filled (e : Reserves Possible region m raw r m')
    (hr : r.stop ≤ m'.memory.size) (hs : bytes.size = r.len.toNat) :
    contentOf region { m' with memory := Bytes.overwrite m'.memory r.offset.toNat bytes } raw =
      some bytes := by
  have hb : r.offset.toNat + bytes.size ≤ m'.memory.size := by
    rw [hs]
    exact hr
  unfold contentOf
  rw [(e.filled bytes hs).2, e.region_eq, Option.map_some, Region.bytes, Region.stop, ← hs,
    Bytes.extract_overwrite_same hb]

theorem Reserves.content_filled_other (e : Reserves Possible region m raw r m')
    (hr : r.stop ≤ m'.memory.size) (hs : bytes.size = r.len.toNat) (hx : x ≠ raw) :
    contentOf region { m' with memory := Bytes.overwrite m'.memory r.offset.toNat bytes } x =
      contentOf region m x := by
  rw [← e.kept x hx]
  unfold contentOf
  rw [(e.filled bytes hs).2]
  cases hq : region m' x with
  | none => rfl
  | some q =>
    rw [Option.map_some, Option.map_some,
      bytes_overwrite_of_apart (e.apart hx hq) hs hr]

/-! ## The reference guest -/

namespace Record

open Bytes (wordAt wordAt_overwrite_of_outside)

variable {m m' : Machine State} {h x : UInt32} {n : UInt32} {bytes : ByteArray}

/-- Where the string of a live handle lies. -/
def regionOf (m : Machine State) (h : UInt32) : Option Region :=
  (slotOf? m.memory h).map fun slot =>
    ⟨wordAt m.memory (slot + 8), wordAt m.memory (slot + 12)⟩

theorem contentOf_regionOf (m : Machine State) : contentOf regionOf m = stringOf? m.memory := by
  funext h
  unfold contentOf regionOf stringOf?
  rw [Option.map_map]
  rfl

theorem regionOf_eq_none_iff : regionOf m h = none ↔ slotOf? m.memory h = none :=
  Option.map_eq_none_iff

theorem regionOf_of_stores (hm : LaidOut m) (s : Stores m h bytes m')
    (hn : bytes.size = n.toNat) :
    regionOf m' = Function.update (regionOf m) h (some ⟨m.state.heap, n⟩) := by
  funext x
  by_cases hx : x = h
  · subst hx
    have hl : wordAt m'.memory (slotAddress x + 12) = n :=
      UInt32.toNat_inj.1 (s.len_eq.trans hn)
    rw [Function.update_self, regionOf, s.slotOf?_eq, Option.map_some, s.ptr_eq, hl]
  · rw [Function.update_of_ne hx, regionOf, regionOf, s.alike.slotOf?_eq hm s.hasSlot hx]
    cases hs : slotOf? m.memory x with
    | none => rfl
    | some slot =>
      obtain ⟨hsx, rfl, -⟩ := slotOf?_eq_some_iff.1 hs
      rw [Option.map_some, Option.map_some, s.alike.word_eq hm s.hasSlot hsx hx (by decide),
        s.alike.word_eq hm s.hasSlot hsx hx (by decide)]

/-- The reference guest, but it turns away lengths of half the words or more, which its own
sums would take for small ones. -/
def careful : Guest State :=
  { guest with
    reserve := fun h n m =>
      if 2147483648 ≤ n.toNat then ⟨.ok 0, m, []⟩ else Record.reserve h n m }

theorem LaidOut.regionOf_live (hm : LaidOut m) {r : Region} (hr : regionOf m h = some r) :
    (ptr h m).result = .ok r.offset ∧ (len h m).result = .ok r.len ∧ r.offset ≠ 0 ∧
      r.stop < m.state.heap.toNat := by
  obtain ⟨slot, hs, rfl⟩ := Option.map_eq_some_iff.1 hr
  obtain ⟨h₁, h₂⟩ := hm.region hs
  refine ⟨?_, ?_, ?_, h₂⟩
  · rw [ptr, slotWord_live hs]
  · rw [len, slotWord_live hs]
  · intro hz
    have hz : wordAt m.memory (slot + 8) = 0 := hz
    rw [hz] at h₁
    exact absurd h₁ (by decide)

theorem slotWord_still (m : Machine State) (offset : Nat) (h : UInt32) :
    ∃ w logs, slotWord offset h m = ⟨.ok w, m, logs⟩ := by
  cases hs : slotOf? m.memory h with
  | none => exact ⟨_, _, slotWord_dead hs offset⟩
  | some slot => exact ⟨_, _, slotWord_live hs offset⟩

/-- The string of a new length goes to the counter, above all others. -/
theorem reserves_of_stores (hm : LaidOut m) (s : Stores m h bytes m') (hn : bytes.size = n.toNat) :
    Reserves LaidOut regionOf m h ⟨m.state.heap, n⟩ m' where
  region_eq := by
    rw [regionOf_of_stores hm s hn, Function.update_self]
  kept x hx := by
    rw [contentOf_regionOf, contentOf_regionOf, stringOf?_of_stores hm s, Function.update_of_ne hx]
  apart := by
    intro x q hx hq i _ hi
    rw [regionOf_of_stores hm s hn, Function.update_of_ne hx] at hq
    exact Or.inl (Nat.lt_trans hi (hm.regionOf_live hq).2.2.2)
  filled := by
    intro text ht full
    have hf : Stores m h text full := s.overwrite_text hm (ht.trans hn.symm)
    refine ⟨hm.of_stores hf, ?_⟩
    rw [regionOf_of_stores hm s hn, regionOf_of_stores hm hf ht]

theorem LaidOut.create (hm : LaidOut m) : LaidOut (create m).machine := by
  rcases full_or_exists_lowest m.memory with hf | ⟨h, hh, hd, hl⟩
  · rw [create_of_no_room hm (Or.inl hf)]
    exact hm
  · by_cases hr : defaultText.size < room m
    · exact hm.of_stores (create_of_room hm hh hd hl hr).2
    · rw [create_of_no_room hm (Or.inr (Nat.le_of_not_lt hr))]
      exact hm

theorem LaidOut.destroy (hm : LaidOut m) (h : UInt32) : LaidOut (destroy h m).machine := by
  cases hs : slotOf? m.memory h with
  | none =>
    rw [destroy_dead hs]
    exact hm
  | some slot => exact hm.of_clears (destroy_live hm hs).2

theorem careful_reserve_of_short (hn : n.toNat < 2147483648) :
    careful.reserve h n m = Record.reserve h n m :=
  if_neg (Nat.not_le.2 hn)

theorem careful_reserve (hm : LaidOut m) (h n : UInt32) :
    ∃ p m' logs, careful.reserve h n m = ⟨.ok p, m', logs⟩ ∧ LaidOut m' ∧
      (regionOf m h = none → p = 0) ∧ (p = 0 → contentOf regionOf m' = contentOf regionOf m) ∧
      (p ≠ 0 → Reserves LaidOut regionOf m h ⟨p, n⟩ m') := by
  have refused : careful.reserve h n m = ⟨.ok 0, m, []⟩ →
      ∃ p m' logs, careful.reserve h n m = ⟨.ok p, m', logs⟩ ∧ LaidOut m' ∧
        (regionOf m h = none → p = 0) ∧ (p = 0 → contentOf regionOf m' = contentOf regionOf m) ∧
        (p ≠ 0 → Reserves LaidOut regionOf m h ⟨p, n⟩ m') :=
    fun e => ⟨0, m, [], e, hm, fun _ => rfl, fun _ => rfl, fun hz => absurd rfl hz⟩
  by_cases hw : 2147483648 ≤ n.toNat
  · exact refused (if_pos hw)
  rw [Nat.not_le] at hw
  have hc := careful_reserve_of_short (h := h) (m := m) hw
  cases hs : slotOf? m.memory h with
  | none => exact refused (hc.trans (reserve_dead hs n))
  | some slot =>
    by_cases hr : n.toNat < room m
    · obtain ⟨m', text, he, hn, st⟩ := reserve_stores hm hs hr
      refine ⟨_, m', [], hc.trans he, hm.of_stores st, ?_, ?_, fun _ => reserves_of_stores hm st hn⟩
      · intro hd
        rw [regionOf_eq_none_iff.1 hd] at hs
        cases hs
      · exact fun hz => absurd hz (heap_ne_zero hm)
    · exact refused (hc.trans (reserve_of_no_room hm hw (Nat.le_of_not_lt hr)))

theorem careful_keepsConvention : KeepsConvention careful LaidOut regionOf where
  ptr_still _ raw := slotWord_still _ 8 raw
  len_still _ raw := slotWord_still _ 12 raw
  live := by
    intro m raw r hm hr
    obtain ⟨h₁, h₂, h₃, h₄⟩ := hm.regionOf_live hr
    have h₅ := hm.heap_le
    rw [← hm.size_eq] at h₅
    exact ⟨h₁, h₂, h₃, by omega⟩
  dead := by
    intro m raw _ hr
    show (slotWord 8 raw m).result = _
    rw [slotWord_dead (regionOf_eq_none_iff.1 hr)]
  reserve hm := careful_reserve hm
  create hm := hm.create
  destroy hm raw := hm.destroy raw

end Record

end HandleBridge.Guest
