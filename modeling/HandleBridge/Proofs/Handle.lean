import HandleBridge.Handle
import Mathlib.Data.Prod.Lex

/-
  Handles, words, and pairs of generation and slot.

  The three are the same thing in the same order. A handle is made of every pair whose slot has a
  number, and of every word whose low half is not zero; going on to the other form and back leads
  to the same handle. Words are compared as numbers, and the generation stands in the high half, so
  handles are sorted by generation, and by slot within one generation.

  Proved:
  * `raw_eq_bits`, `slot_eq_bits`, `generation_eq_bits`: where slot and generation stand in a word.
  * `le_iff_key_le`: the order of handles is that of their pairs.
  * `mem_sortDistinct`, `pairwise_sortDistinct`: what sorting keeps, and in which order.
  * `encoding_is_order_isomorphism`: all of it, for every word, index, generation and row of
    handles.
-/

namespace HandleBridge.Handle

variable {a b h : Handle} {w : UInt32}

/-! ## Halves of a word -/

theorem toNat_low (w : UInt32) : (w &&& 0xFFFF).toNat = w.toNat % 65536 := by
  rw [UInt32.toNat_and]
  exact Nat.and_two_pow_sub_one_eq_mod w.toNat 16

theorem toNat_high (w : UInt32) : (w >>> 16).toNat = w.toNat / 65536 := by
  rw [UInt32.toNat_shiftRight]
  exact Nat.shiftRight_eq_div_pow w.toNat 16

theorem raw_eq_bits {index : UInt32} {generation : UInt16} (hs : h.slot = index.toNat)
    (hg : h.generation = generation.toNat) :
    h.raw = generation.toUInt32 <<< 16 ||| (index + 1) := by
  have hn := h.slot_lt
  have hl := generation.toNat_lt
  simp only [maxSlots] at hn
  have hi : (index + 1).toNat = h.slot + 1 := by
    rw [UInt32.toNat_add, hs]
    exact Nat.mod_eq_of_lt (show index.toNat + 1 < 2 ^ 32 by omega)
  have hh : (generation.toUInt32 <<< 16).toNat = h.generation <<< 16 := by
    rw [UInt32.toNat_shiftLeft, UInt16.toNat_toUInt32, ← hg]
    refine Nat.mod_eq_of_lt (show h.generation <<< 16 < 2 ^ 32 from ?_)
    rw [Nat.shiftLeft_eq]
    omega
  apply UInt32.toNat_inj.1
  rw [toNat_raw, UInt32.toNat_or, hi, hh,
    ← Nat.shiftLeft_add_eq_or_of_lt (show h.slot + 1 < 2 ^ 16 by omega), Nat.shiftLeft_eq]

theorem slot_eq_bits (h : Handle) : h.slot = ((h.raw &&& 0xFFFF) - 1).toNat := by
  have hn := h.slot_lt
  simp only [maxSlots] at hn
  have hl : (h.raw &&& 0xFFFF).toNat = h.slot + 1 := by
    rw [toNat_low, toNat_raw]
    omega
  rw [UInt32.toNat_sub_of_le _ _ (by rw [UInt32.le_iff_toNat_le, hl]; exact Nat.le_add_left _ _), hl]
  rfl

theorem generation_eq_bits (h : Handle) : h.generation = (h.raw >>> 16).toNat := by
  have hn := h.slot_lt
  simp only [maxSlots] at hn
  rw [toNat_high, toNat_raw]
  omega

/-! ## What is a handle -/

theorem exists_new?_iff {slot generation : Nat} :
    (∃ h, new? slot generation = some h) ↔ slot < maxSlots ∧ generation ≤ maxGeneration := by
  constructor
  · rintro ⟨h, e⟩
    obtain ⟨rfl, rfl⟩ := new?_eq_some_iff.1 e
    exact ⟨h.slot_lt, h.generation_le⟩
  · rintro ⟨hs, hg⟩
    exact ⟨⟨slot, generation, hs, hg⟩, new?_eq_some_iff.2 ⟨rfl, rfl⟩⟩

theorem exists_ofRaw?_iff : (∃ h, ofRaw? w = some h) ↔ w &&& 0xFFFF ≠ 0 := by
  have hz : (w &&& 0xFFFF).toNat = (0 : UInt32).toNat ↔ w &&& 0xFFFF = 0 := UInt32.toNat_inj
  rw [← Option.ne_none_iff_exists', Ne, ofRaw?_eq_none_iff, ← toNat_low]
  exact not_congr hz

/-! ## Order -/

/-- What decides between two handles: the generation, then the slot. -/
def key (h : Handle) : ℕ ×ₗ ℕ := toLex (h.generation, h.slot)

theorem key_le_key_iff : a.key ≤ b.key ↔
    a.generation < b.generation ∨ a.generation = b.generation ∧ a.slot ≤ b.slot :=
  Prod.Lex.toLex_le_toLex

theorem le_iff_key_le : a ≤ b ↔ a.key ≤ b.key := by
  have ha := a.slot_lt
  have hb := b.slot_lt
  simp only [maxSlots] at ha hb
  have hle : a ≤ b ↔ a.raw.toNat ≤ b.raw.toNat := UInt32.le_iff_toNat_le
  rw [hle, key_le_key_iff, toNat_raw, toNat_raw]
  omega

theorem key_injective : Function.Injective key := by
  intro a b e
  have hp : (a.generation, a.slot) = (b.generation, b.slot) := e
  obtain ⟨hg, hs⟩ := Prod.mk.inj hp
  cases a
  cases b
  cases hg
  cases hs
  rfl

/-! ## Sorting -/

theorem eraseRepsLoop_eq (a : Handle) (hs seen : List Handle) :
    List.eraseRepsBy.loop (· == ·) a hs seen =
      seen.reverse ++ List.eraseRepsBy.loop (· == ·) a hs [] := by
  induction hs generalizing a seen with
  | nil => simp [List.eraseRepsBy.loop]
  | cons b hs ih =>
    simp only [List.eraseRepsBy.loop]
    split
    · exact ih a seen
    · rw [ih b (a :: seen), ih b [a]]
      simp

theorem eraseReps_cons_cons (a b : Handle) (hs : List Handle) : (a :: b :: hs).eraseReps =
    if a = b then (a :: hs).eraseReps else a :: (b :: hs).eraseReps := by
  unfold List.eraseReps List.eraseRepsBy
  simp only [List.eraseRepsBy.loop]
  split
  · rw [if_pos (eq_of_beq ‹_›)]
  · rw [if_neg (ne_of_beq_false ‹_›), eraseRepsLoop_eq b hs [a]]
    rfl

theorem mem_eraseReps_cons {hs : List Handle} : h ∈ (a :: hs).eraseReps ↔ h ∈ a :: hs := by
  induction hs generalizing a with
  | nil => rfl
  | cons b hs ih =>
    rw [eraseReps_cons_cons]
    split
    · rename_i e
      rw [ih, e, List.mem_cons, List.mem_cons, List.mem_cons, or_self_left]
    · rw [List.mem_cons, ih, ← List.mem_cons]

/-- In a sorted row equal handles are next to each other. -/
theorem pairwise_eraseReps_cons {hs : List Handle}
    (hp : (a :: hs).Pairwise fun a b => a.key ≤ b.key) :
    (a :: hs).eraseReps.Pairwise fun a b => a.key < b.key := by
  induction hs generalizing a with
  | nil => exact List.pairwise_singleton _ _
  | cons b hs ih =>
    obtain ⟨hle, hp⟩ := List.pairwise_cons.1 hp
    rw [eraseReps_cons_cons]
    split
    · rename_i e
      rw [e]
      exact ih hp
    · rename_i hne
      have hab : a.key < b.key :=
        lt_of_le_of_ne (hle b (.head _)) fun e => hne (key_injective e)
      refine List.pairwise_cons.2 ⟨fun c hc => ?_, ih hp⟩
      rcases List.mem_cons.1 (mem_eraseReps_cons.1 hc) with rfl | hc
      · exact hab
      · exact lt_of_lt_of_le hab ((List.pairwise_cons.1 hp).1 c hc)

theorem pairwise_mergeSort_key (hs : List Handle) :
    (hs.mergeSort fun a b => a ≤ b).Pairwise fun a b => a.key ≤ b.key := by
  have trans : ∀ a b c : Handle, decide (a ≤ b) = true → decide (b ≤ c) = true →
      decide (a ≤ c) = true := by
    simp only [decide_eq_true_eq, le_iff_key_le]
    exact fun _ _ _ => le_trans
  have total : ∀ a b : Handle, (decide (a ≤ b) || decide (b ≤ a)) = true := by
    simp only [Bool.or_eq_true, decide_eq_true_eq, le_iff_key_le]
    exact fun a b => le_total a.key b.key
  have hp := List.pairwise_mergeSort trans total hs
  simpa only [decide_eq_true_eq, le_iff_key_le] using hp

theorem mem_sortDistinct {hs : List Handle} : h ∈ sortDistinct hs ↔ h ∈ hs := by
  have hm : h ∈ hs.mergeSort (fun a b => a ≤ b) ↔ h ∈ hs := List.mem_mergeSort
  rw [← hm]
  unfold sortDistinct
  cases hs.mergeSort fun a b => a ≤ b with
  | nil => rfl
  | cons a hs => exact mem_eraseReps_cons

theorem pairwise_sortDistinct (hs : List Handle) :
    (sortDistinct hs).Pairwise fun a b => a.key < b.key := by
  have hp := pairwise_mergeSort_key hs
  unfold sortDistinct
  cases e : hs.mergeSort fun a b => a ≤ b with
  | nil => exact List.Pairwise.nil
  | cons a hs =>
    rw [e] at hp
    exact pairwise_eraseReps_cons hp

/-! ## The isomorphism -/

/-- What becomes of an index and a generation. -/
structure Encodes (index : UInt32) (generation : UInt16) : Prop where
  made_iff : (∃ h, new? index.toNat generation.toNat = some h) ↔ index < 65535
  made : ∀ {h}, new? index.toNat generation.toNat = some h →
    h.slot = index.toNat ∧ h.generation = generation.toNat ∧ h.raw ≠ 0 ∧
      h.raw = generation.toUInt32 <<< 16 ||| (index + 1) ∧ ofRaw? h.raw = some h

/-- What becomes of a word. -/
structure Decodes (w : UInt32) : Prop where
  read_iff : (∃ h, ofRaw? w = some h) ↔ w &&& 0xFFFF ≠ 0
  read : ∀ {h}, ofRaw? w = some h →
    h.slot = ((w &&& 0xFFFF) - 1).toNat ∧ h.generation = (w >>> 16).toNat ∧
      new? h.slot h.generation = some h ∧ h.raw = w

theorem encodes (index : UInt32) (generation : UInt16) : Encodes index generation where
  made_iff := by
    have hg : generation.toNat ≤ maxGeneration := Nat.le_of_lt_succ generation.toNat_lt
    rw [exists_new?_iff, UInt32.lt_iff_toNat_lt]
    exact and_iff_left hg
  made {h} e := by
    obtain ⟨hs, hg⟩ := new?_eq_some_iff.1 e
    exact ⟨hs, hg, raw_ne_invalidHandle h, raw_eq_bits hs hg, ofRaw?_raw h⟩

theorem decodes (w : UInt32) : Decodes w where
  read_iff := exists_ofRaw?_iff
  read {h} e := by
    have hr := raw_ofRaw? e
    refine ⟨?_, ?_, new?_eq_some_iff.2 ⟨rfl, rfl⟩, hr⟩
    · rw [← hr]
      exact slot_eq_bits h
    · rw [← hr]
      exact generation_eq_bits h

/-- Handles are the pairs of a generation and a slot that has a number, and the words with a low
half that is not zero, in the same order: a row of handles is sorted by its words exactly if it is
sorted by generation first and slot second, and sorting puts it in that order. -/
theorem encoding_is_order_isomorphism :
    (∀ index generation, Encodes index generation) ∧ (∀ w, Decodes w) ∧
      (∀ a b : Handle, a ≤ b ↔
        a.generation < b.generation ∨ a.generation = b.generation ∧ a.slot ≤ b.slot) ∧
      (∀ hs : List Handle, (hs.Pairwise fun a b => a.raw ≤ b.raw) ↔
        hs.Pairwise fun a b => a.key ≤ b.key) ∧
      ∀ hs : List Handle, ((sortDistinct hs).Pairwise fun a b => a.key < b.key) ∧
        ∀ h, h ∈ sortDistinct hs ↔ h ∈ hs := by
  refine ⟨encodes, decodes, fun a b => ?_, fun hs => ?_, fun hs => ?_⟩
  · rw [le_iff_key_le, key_le_key_iff]
  · simp only [← le_iff_key_le]
    rfl
  · exact ⟨pairwise_sortDistinct hs, fun h => mem_sortDistinct⟩

/-- The last generation of the last slot has the largest word of all. -/
example : (new? 65534 65535).map raw = some 0xFFFFFFFF := by decide

end HandleBridge.Handle
