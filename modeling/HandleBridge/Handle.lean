/-
  Handles: the numbers by which the other side of the boundary names an instance.

  A handle is a slot together with the generation of the occupant. Its raw form is a 32-bit
  word: the generation in the high half, the slot number plus one in the low half. So no
  handle is zero, and zero is free to mean "no instance".

  Proved: the raw form determines the handle (`ofRaw?_raw`, `raw_ofRaw?`), a word is a handle
  exactly when its low half is not zero (`ofRaw?_eq_none_iff`).
-/

namespace HandleBridge

/-- Slots a store may have. -/
def maxSlots : Nat := 65535

/-- The last generation of a slot. -/
def maxGeneration : Nat := 65535

/-- The raw value that is never a handle. -/
def invalidHandle : UInt32 := 0

/-- A slot and the generation of its occupant. -/
structure Handle where
  slot : Nat
  generation : Nat
  slot_lt : slot < maxSlots
  generation_le : generation ≤ maxGeneration
deriving DecidableEq

namespace Handle

/-- The handle of a slot and a generation, if both are in range. -/
def new? (slot generation : Nat) : Option Handle :=
  if h : slot < maxSlots ∧ generation ≤ maxGeneration then some ⟨slot, generation, h.1, h.2⟩
  else none

/-- The word that stands for the handle outside. -/
def raw (h : Handle) : UInt32 := UInt32.ofNat (h.generation * 65536 + (h.slot + 1))

/-- The handle that a word stands for. -/
def ofRaw? (w : UInt32) : Option Handle :=
  if w.toNat % 65536 = 0 then none else new? (w.toNat % 65536 - 1) (w.toNat / 65536)

theorem toNat_raw (h : Handle) : h.raw.toNat = h.generation * 65536 + (h.slot + 1) := by
  have hs := h.slot_lt
  have hg := h.generation_le
  simp only [maxSlots, maxGeneration] at hs hg
  simp only [raw, UInt32.toNat_ofNat']
  omega

theorem new?_eq_some_iff {slot generation : Nat} {h : Handle} :
    new? slot generation = some h ↔ h.slot = slot ∧ h.generation = generation := by
  unfold new?
  split
  · rename_i hb
    constructor
    · intro e
      cases e
      exact ⟨rfl, rfl⟩
    · rintro ⟨rfl, rfl⟩
      rfl
  · rename_i hb
    constructor
    · intro e
      cases e
    · rintro ⟨rfl, rfl⟩
      exact absurd ⟨h.slot_lt, h.generation_le⟩ hb

theorem ofRaw?_raw (h : Handle) : ofRaw? h.raw = some h := by
  have hs := h.slot_lt
  simp only [maxSlots] at hs
  unfold ofRaw?
  rw [toNat_raw, if_neg (by omega), new?_eq_some_iff]
  omega

theorem raw_ofRaw? {w : UInt32} {h : Handle} (e : ofRaw? w = some h) : h.raw = w := by
  unfold ofRaw? at e
  split at e
  · cases e
  · rename_i hw
    rw [new?_eq_some_iff] at e
    apply UInt32.toNat_inj.1
    rw [toNat_raw]
    omega

theorem raw_ne_invalidHandle (h : Handle) : h.raw ≠ invalidHandle := by
  intro e
  have hn := toNat_raw h
  rw [e] at hn
  have hz : invalidHandle.toNat = 0 := rfl
  omega

theorem raw_inj {h k : Handle} : h.raw = k.raw ↔ h = k := by
  constructor
  · intro e
    have hk := ofRaw?_raw h
    rw [e, ofRaw?_raw] at hk
    exact (Option.some.inj hk).symm
  · rintro rfl
    rfl

theorem ofRaw?_eq_none_iff {w : UInt32} : ofRaw? w = none ↔ w.toNat % 65536 = 0 := by
  have hw := w.toNat_lt
  unfold ofRaw? new?
  split
  · simp [*]
  · rename_i hz
    rw [dif_pos (by unfold maxSlots maxGeneration; omega)]
    simp [hz]

/-- Handles are ordered as their raw forms are. -/
instance : LE Handle := ⟨fun a b => a.raw ≤ b.raw⟩

instance (a b : Handle) : Decidable (a ≤ b) := inferInstanceAs (Decidable (a.raw ≤ b.raw))

/-- The handles in order, each once. -/
def sortDistinct (hs : List Handle) : List Handle :=
  (hs.mergeSort fun a b => a ≤ b).eraseReps

/-- The decimal raw value. -/
def display (h : Handle) : String := toString h.raw.toNat

/-- Slot and generation, for reports: `Handle(3v1)`. -/
def report (h : Handle) : String := s!"Handle({h.slot}v{h.generation})"

end Handle

end HandleBridge
