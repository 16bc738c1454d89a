import HandleBridge.Guest.Record
import HandleBridge.Proofs.Region
import Mathlib.Logic.Function.Basic

/-
  The memory of the reference guest.

  `stringOf?` reads the string of a handle off the memory, through the table. `LaidOut` says how
  the page is divided: the table and the default string lie below 1024, the strings of live
  handles between 1024 and the counter, and above the counter there is nothing yet. No string is
  ever changed where it lies. A new one goes to the counter, so it cannot meet another, and all
  that changes below the counter is one slot of the table (`Stores`, `Clears`).

  Proved:
  * `laidOut_initial`: the memory is laid out before the first call.
  * `LaidOut.of_stores`, `LaidOut.of_clears`: the layout is kept.
  * `stringOf?_of_stores`, `stringOf?_of_clears`: the string of one handle changes.
-/

namespace HandleBridge.Guest.Record

open Bytes

variable {memory memory' bytes : ByteArray} {m m' : Machine State} {h x : UInt32}
  {slot i : Nat} {n p : UInt32}

/-! ## The table -/

/-- Where the slot of a handle lies, live or not. -/
def slotAddress (h : UInt32) : Nat := (h.toNat - 1) * 16

theorem slotAddress_def (h : UInt32) : (h.toNat - 1) * 16 = slotAddress h := rfl

/-- The handles that have a slot. -/
def HasSlot (h : UInt32) : Prop := 1 ≤ h.toNat ∧ h.toNat ≤ slots

theorem slotAddress_le (hh : HasSlot h) : slotAddress h + 16 ≤ 64 := by
  have h₁ := hh.1
  have h₂ := hh.2
  unfold slots at h₂
  unfold slotAddress
  omega

theorem slotAddress_apart (hh : HasSlot h) (hx : HasSlot x) (hne : x ≠ h) :
    slotAddress x + 16 ≤ slotAddress h ∨ slotAddress h + 16 ≤ slotAddress x := by
  have hn : x.toNat ≠ h.toNat := fun e => hne (UInt32.toNat_inj.1 e)
  have h₁ := hh.1
  have h₂ := hx.1
  unfold slotAddress
  omega

theorem slotOf?_eq_some_iff :
    slotOf? memory h = some slot ↔
      HasSlot h ∧ slot = slotAddress h ∧ wordAt memory (slotAddress h) ≠ 0 := by
  have hz : h = 0 ↔ h.toNat = 0 := UInt32.toNat_inj.symm
  unfold slotOf? HasSlot slotAddress
  split
  · rename_i hn
    rw [hz] at hn
    constructor
    · exact fun e => nomatch e
    · rintro ⟨hs, -⟩
      omega
  · rename_i hn
    rw [hz, not_or] at hn
    dsimp only
    split
    · rename_i hw
      constructor
      · exact fun e => nomatch e
      · exact fun e => absurd hw e.2.2
    · rename_i hw
      constructor
      · rintro ⟨⟩
        exact ⟨by omega, rfl, hw⟩
      · rintro ⟨-, rfl, -⟩
        rfl

theorem slotOf?_eq_none_iff :
    slotOf? memory h = none ↔ (HasSlot h → wordAt memory (slotAddress h) = 0) := by
  rw [Option.eq_none_iff_forall_ne_some]
  simp only [ne_eq, slotOf?_eq_some_iff, not_and, not_not]
  exact ⟨fun e hh => e _ hh rfl, fun e slot hh _ => e hh⟩

/-- The string of a handle. -/
def stringOf? (memory : ByteArray) (h : UInt32) : Option ByteArray :=
  (slotOf? memory h).map fun slot =>
    memory.extract (wordAt memory (slot + 8)).toNat
      ((wordAt memory (slot + 8)).toNat + (wordAt memory (slot + 12)).toNat)

theorem size_describe (hs : slot + 16 ≤ memory.size) (p n : UInt32) :
    (describe memory slot p n).size = memory.size := by
  have h₁ : (overwrite memory (slot + 8) (ofWord p)).size = memory.size :=
    size_overwrite (by rw [size_ofWord]; omega)
  unfold describe
  rw [size_overwrite (by rw [h₁, size_ofWord]; omega), h₁]

theorem getElem?_describe (hs : slot + 16 ≤ memory.size) (hi : i < slot + 8 ∨ slot + 16 ≤ i) :
    (describe memory slot p n)[i]? = memory[i]? := by
  have h₁ : (overwrite memory (slot + 8) (ofWord p)).size = memory.size :=
    size_overwrite (by rw [size_ofWord]; omega)
  unfold describe
  rw [getElem?_overwrite_of_outside (by rw [h₁, size_ofWord]; omega) (by rw [size_ofWord]; omega),
    getElem?_overwrite_of_outside (by rw [size_ofWord]; omega) (by rw [size_ofWord]; omega)]

theorem wordAt_describe_ptr (hs : slot + 16 ≤ memory.size) :
    wordAt (describe memory slot p n) (slot + 8) = p := by
  have h₁ : (overwrite memory (slot + 8) (ofWord p)).size = memory.size :=
    size_overwrite (by rw [size_ofWord]; omega)
  unfold describe
  rw [wordAt_overwrite_of_outside (by rw [h₁, size_ofWord]; omega) (Or.inl (by omega)),
    wordAt_overwrite_ofWord p (by omega)]

theorem wordAt_describe_len (hs : slot + 16 ≤ memory.size) :
    wordAt (describe memory slot p n) (slot + 12) = n := by
  have h₁ : (overwrite memory (slot + 8) (ofWord p)).size = memory.size :=
    size_overwrite (by rw [size_ofWord]; omega)
  unfold describe
  rw [wordAt_overwrite_ofWord n (by rw [h₁]; omega)]

/-! ## The layout -/

/-- How the page is divided. -/
structure LaidOut (m : Machine State) : Prop where
  size_eq : m.memory.size = pageBytes
  heap_ge : 1024 ≤ m.state.heap.toNat
  heap_le : m.state.heap.toNat ≤ pageBytes
  text_eq : m.memory.extract defaultAddress (defaultAddress + defaultLength.toNat) =
    "hey there".toUTF8
  region : ∀ {h : UInt32} {slot : Nat}, slotOf? m.memory h = some slot →
    1024 ≤ (wordAt m.memory (slot + 8)).toNat ∧
      (wordAt m.memory (slot + 8)).toNat + (wordAt m.memory (slot + 12)).toNat <
        m.state.heap.toNat

/-- The bytes that are left for strings. -/
def room (m : Machine State) : Nat := pageBytes - m.state.heap.toNat

/-- Below the counter of `m` the memories of `m` and `m'` are alike, but for the slot of `h`. -/
structure AlikeBut (h : UInt32) (m m' : Machine State) : Prop where
  size_eq : m'.memory.size = m.memory.size
  below : ∀ i, i < m.state.heap.toNat → i < slotAddress h ∨ slotAddress h + 16 ≤ i →
    m'.memory[i]? = m.memory[i]?

/-- `m'` is `m` with `bytes` as the string of `h`, laid out at the counter. -/
structure Stores (m : Machine State) (h : UInt32) (bytes : ByteArray) (m' : Machine State) :
    Prop where
  hasSlot : HasSlot h
  alike : AlikeBut h m m'
  live : wordAt m'.memory (slotAddress h) ≠ 0
  ptr_eq : wordAt m'.memory (slotAddress h + 8) = m.state.heap
  len_eq : (wordAt m'.memory (slotAddress h + 12)).toNat = bytes.size
  text_eq : m'.memory.extract m.state.heap.toNat (m.state.heap.toNat + bytes.size) = bytes
  heap_eq : m'.state.heap.toNat = m.state.heap.toNat + (bytes.size + 1)
  heap_le : m'.state.heap.toNat ≤ pageBytes

/-- `m'` is `m` without the string of `h`. -/
structure Clears (m : Machine State) (h : UInt32) (m' : Machine State) : Prop where
  hasSlot : HasSlot h
  alike : AlikeBut h m m'
  dead : wordAt m'.memory (slotAddress h) = 0
  state_eq : m'.state = m.state

/-! ## The beginning -/

theorem default_fits :
    defaultAddress + "hey there".toUTF8.size ≤ (zeros pageBytes).size := by
  rw [size_zeros]
  decide

theorem line_fits : lineAddress.toNat + "created".toUTF8.size ≤
    (overwrite (zeros pageBytes) defaultAddress "hey there".toUTF8).size := by
  rw [size_overwrite default_fits, size_zeros]
  decide

theorem size_initialMemory : initialMemory.size = pageBytes := by
  unfold initialMemory
  rw [size_overwrite line_fits, size_overwrite default_fits, size_zeros]

theorem stringOf?_initialMemory (h : UInt32) : stringOf? initialMemory h = none := by
  unfold stringOf?
  rw [Option.map_eq_none_iff, slotOf?_eq_none_iff]
  intro hh
  have h₁ := slotAddress_le hh
  have h₂ : slotAddress h + 4 ≤ defaultAddress := by
    unfold defaultAddress
    omega
  have h₃ : slotAddress h + 4 ≤ lineAddress.toNat :=
    Nat.le_trans h₂ (by decide)
  unfold initialMemory
  rw [wordAt_overwrite_of_outside line_fits (Or.inl h₃),
    wordAt_overwrite_of_outside default_fits (Or.inl h₂), wordAt_zeros]

theorem laidOut_initial (state : State) (hs : state.heap = 1024) :
    LaidOut ⟨initialMemory, state⟩ where
  size_eq := size_initialMemory
  heap_ge := by
    rw [hs]
    decide
  heap_le := by
    rw [hs]
    decide
  text_eq := by
    unfold initialMemory
    rw [extract_overwrite_of_outside line_fits (Or.inl (by decide))]
    exact extract_overwrite_same default_fits
  region := by
    intro h slot hx
    have hn := stringOf?_initialMemory h
    unfold stringOf? at hn
    rw [Option.map_eq_none_iff] at hn
    rw [hn] at hx
    cases hx

/-! ## One handle changes -/

theorem AlikeBut.word_eq (ha : AlikeBut h m m') (hm : LaidOut m) (hh : HasSlot h) (hx : HasSlot x)
    (hne : x ≠ h) {k : Nat} (hk : k + 4 ≤ 16) :
    wordAt m'.memory (slotAddress x + k) = wordAt m.memory (slotAddress x + k) := by
  have h₁ := slotAddress_apart hh hx hne
  have h₂ := slotAddress_le hx
  have h₃ := hm.heap_ge
  exact wordAt_congr fun j hj => ha.below _ (by omega) (by omega)

theorem AlikeBut.slotOf?_eq (ha : AlikeBut h m m') (hm : LaidOut m) (hh : HasSlot h)
    (hne : x ≠ h) : slotOf? m'.memory x = slotOf? m.memory x := by
  by_cases hx : HasSlot x
  · ext slot
    have hw := ha.word_eq hm hh hx hne (show 0 + 4 ≤ 16 by decide)
    rw [Nat.add_zero] at hw
    rw [slotOf?_eq_some_iff, slotOf?_eq_some_iff, hw]
  · rw [slotOf?_eq_none_iff.2 fun h => absurd h hx, slotOf?_eq_none_iff.2 fun h => absurd h hx]

theorem AlikeBut.text_eq (ha : AlikeBut h m m') (hm : LaidOut m) (hh : HasSlot h) :
    m'.memory.extract defaultAddress (defaultAddress + defaultLength.toNat) =
      "hey there".toUTF8 := by
  have h₁ := slotAddress_le hh
  have h₂ := hm.heap_ge
  have h₃ : defaultLength.toNat = 9 := rfl
  rw [← hm.text_eq]
  refine extract_congr ha.size_eq fun i hi hj => ha.below i ?_ ?_
  · unfold defaultAddress at hj
    omega
  · unfold defaultAddress at hi
    omega

theorem AlikeBut.region (ha : AlikeBut h m m') (hm : LaidOut m) (hh : HasSlot h) (hne : x ≠ h)
    (hx : slotOf? m'.memory x = some slot) :
    1024 ≤ (wordAt m'.memory (slot + 8)).toNat ∧
      (wordAt m'.memory (slot + 8)).toNat + (wordAt m'.memory (slot + 12)).toNat <
        m.state.heap.toNat := by
  rw [ha.slotOf?_eq hm hh hne] at hx
  obtain ⟨hs, rfl, -⟩ := slotOf?_eq_some_iff.1 hx
  rw [ha.word_eq hm hh hs hne (by decide), ha.word_eq hm hh hs hne (by decide)]
  exact hm.region hx

theorem AlikeBut.stringOf?_eq (ha : AlikeBut h m m') (hm : LaidOut m) (hh : HasSlot h)
    (hne : x ≠ h) : stringOf? m'.memory x = stringOf? m.memory x := by
  unfold stringOf?
  rw [ha.slotOf?_eq hm hh hne]
  cases hx : slotOf? m.memory x with
  | none => rfl
  | some slot =>
    obtain ⟨hs, rfl, -⟩ := slotOf?_eq_some_iff.1 hx
    have hr := hm.region hx
    have h₁ := slotAddress_le hh
    rw [Option.map_some, Option.map_some, ha.word_eq hm hh hs hne (by decide),
      ha.word_eq hm hh hs hne (by decide)]
    exact congrArg some (extract_congr ha.size_eq fun i hi hj => ha.below i (by omega) (by omega))

theorem Stores.slotOf?_eq (s : Stores m h bytes m') :
    slotOf? m'.memory h = some (slotAddress h) :=
  slotOf?_eq_some_iff.2 ⟨s.hasSlot, rfl, s.live⟩

theorem Clears.slotOf?_eq (c : Clears m h m') : slotOf? m'.memory h = none :=
  slotOf?_eq_none_iff.2 fun _ => c.dead

theorem LaidOut.of_stores (hm : LaidOut m) (s : Stores m h bytes m') : LaidOut m' where
  size_eq := s.alike.size_eq.trans hm.size_eq
  heap_ge := by
    have h₁ := hm.heap_ge
    have h₂ := s.heap_eq
    omega
  heap_le := s.heap_le
  text_eq := s.alike.text_eq hm s.hasSlot
  region := by
    intro x slot hx
    have h₁ := s.heap_eq
    by_cases hne : x = h
    · subst hne
      rw [s.slotOf?_eq] at hx
      cases hx
      have h₂ := hm.heap_ge
      rw [s.ptr_eq, s.len_eq]
      omega
    · have h₂ := s.alike.region hm s.hasSlot hne hx
      omega

theorem LaidOut.of_clears (hm : LaidOut m) (c : Clears m h m') : LaidOut m' where
  size_eq := c.alike.size_eq.trans hm.size_eq
  heap_ge := by
    rw [c.state_eq]
    exact hm.heap_ge
  heap_le := by
    rw [c.state_eq]
    exact hm.heap_le
  text_eq := c.alike.text_eq hm c.hasSlot
  region := by
    intro x slot hx
    by_cases hne : x = h
    · rw [hne, c.slotOf?_eq] at hx
      cases hx
    · rw [c.state_eq]
      exact c.alike.region hm c.hasSlot hne hx

theorem stringOf?_of_stores (hm : LaidOut m) (s : Stores m h bytes m') :
    stringOf? m'.memory = Function.update (stringOf? m.memory) h (some bytes) := by
  funext x
  by_cases hx : x = h
  · subst hx
    rw [Function.update_self, stringOf?, s.slotOf?_eq, Option.map_some, s.ptr_eq, s.len_eq,
      s.text_eq]
  · rw [Function.update_of_ne hx, s.alike.stringOf?_eq hm s.hasSlot hx]

theorem stringOf?_of_clears (hm : LaidOut m) (c : Clears m h m') :
    stringOf? m'.memory = Function.update (stringOf? m.memory) h none := by
  funext x
  by_cases hx : x = h
  · subst hx
    rw [Function.update_self, stringOf?, c.slotOf?_eq, Option.map_none]
  · rw [Function.update_of_ne hx, c.alike.stringOf?_eq hm c.hasSlot hx]

theorem room_of_stores (s : Stores m h bytes m') : room m' = room m - (bytes.size + 1) := by
  have h₁ := s.heap_eq
  unfold room
  omega

end HandleBridge.Guest.Record
