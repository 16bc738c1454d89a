import HandleBridge.Proofs.Guest.Layout

/-
  The calls of the reference guest, on a memory that is laid out.

  There is room for `n` bytes and a nul if they fit between the counter and the end of the page.
  If they do, `create` and `reserve` lay a string out at the counter; if they do not, or if there
  is no slot, nothing changes. The text of a reserved string is copied from outside, later.

  Proved:
  * `allocate_of_room`, `allocate_of_no_room`: room is what lies above the counter.
  * `create_of_room`, `create_of_no_room`: a creation takes the lowest free handle, or none.
  * `reserve_of_room`, `reserve_of_no_room`: the same for a new text of a live handle.
  * `destroy_live`: an end clears one slot.
-/

namespace HandleBridge.Guest.Record

open Bytes

variable {memory bytes : ByteArray} {m m' : Machine State} {h x : UInt32}
  {slot i : Nat} {n : UInt32}

/-! ## The counter -/

theorem toNat_next (hn : m.state.heap.toNat + (n.toNat + 1) < UInt32.size) :
    (m.state.heap + (n + 1)).toNat = m.state.heap.toNat + (n.toNat + 1) := by
  have h₁ : (1 : UInt32).toNat = 1 := rfl
  unfold UInt32.size at hn
  rw [UInt32.toNat_add, UInt32.toNat_add, h₁]
  omega

theorem allocate_of_room (hm : LaidOut m) (hr : n.toNat < room m) :
    allocate n m = (.ok m.state.heap,
      ⟨overwrite m.memory (m.state.heap.toNat + n.toNat) ⟨#[0]⟩,
        { m.state with heap := m.state.heap + (n + 1) }⟩) := by
  have h₁ := hm.heap_le
  have h₂ := hm.size_eq
  unfold room at hr
  unfold pageBytes at h₁ h₂ hr
  have hp : (m.state.heap + n).toNat = m.state.heap.toNat + n.toNat := by
    rw [UInt32.toNat_add]
    omega
  have hn := toNat_next (m := m) (n := n) (by unfold UInt32.size; omega)
  have hl : ¬ 65536 < m.state.heap + (n + 1) := by
    have h₃ : (65536 : UInt32).toNat = 65536 := rfl
    rw [UInt32.lt_iff_toNat_lt, hn, h₃]
    omega
  unfold allocate
  dsimp only
  rw [if_neg hl, hp, if_pos (by omega)]

/-- A length of half the words or more could wrap around and be taken for a small one. -/
theorem allocate_of_no_room (hm : LaidOut m) (hn : n.toNat < 2147483648) (hr : room m ≤ n.toNat) :
    allocate n m = (.ok 0, m) := by
  have h₁ := hm.heap_le
  unfold room at hr
  unfold pageBytes at h₁ hr
  have hn := toNat_next (m := m) (n := n) (by unfold UInt32.size; omega)
  have hl : 65536 < m.state.heap + (n + 1) := by
    have h₂ : (65536 : UInt32).toNat = 65536 := rfl
    rw [UInt32.lt_iff_toNat_lt, hn, h₂]
    omega
  unfold allocate
  dsimp only
  rw [if_pos hl]

theorem freeSlot?_eq_some_iff : freeSlot? memory i = some slot ↔
    i ≤ slot ∧ slot < slots ∧ wordAt memory (slot * 16) = 0 ∧
      ∀ j, i ≤ j → j < slot → wordAt memory (j * 16) ≠ 0 := by
  fun_induction freeSlot? memory i with
  | case1 i hi hw =>
    rw [Option.some.injEq]
    constructor
    · rintro rfl
      exact ⟨Nat.le_refl _, hi, hw, fun j _ _ => by omega⟩
    · rintro ⟨hl, -, -, ha⟩
      by_contra hne
      exact ha i (Nat.le_refl _) (by omega) hw
  | case2 i hi hw ih =>
    rw [ih]
    constructor
    · rintro ⟨hl, hs, hz, ha⟩
      refine ⟨by omega, hs, hz, fun j hj hk => ?_⟩
      by_cases he : j = i
      · rw [he]
        exact hw
      · exact ha j (by omega) hk
    · rintro ⟨hl, hs, hz, ha⟩
      have hne : slot ≠ i := by
        rintro rfl
        exact hw hz
      exact ⟨by omega, hs, hz, fun j hj hk => ha j (by omega) hk⟩
  | case3 i hi =>
    constructor
    · exact fun e => nomatch e
    · rintro ⟨hl, hs, -⟩
      omega

theorem freeSlot?_eq_none_iff : freeSlot? memory i = none ↔
    ∀ j, i ≤ j → j < slots → wordAt memory (j * 16) ≠ 0 := by
  fun_induction freeSlot? memory i with
  | case1 i hi hw =>
    constructor
    · exact fun e => nomatch e
    · exact fun ha => absurd hw (ha i (Nat.le_refl _) hi)
  | case2 i hi hw ih =>
    rw [ih]
    constructor
    · intro ha j hj hs
      by_cases he : j = i
      · rw [he]
        exact hw
      · exact ha j (by omega) hs
    · exact fun ha j hj hs => ha j (by omega) hs
  | case3 i hi =>
    constructor
    · exact fun _ j hj hs => by omega
    · exact fun _ => rfl

/-! ## Calls -/

theorem stringOf?_eq_none_iff : stringOf? memory h = none ↔ slotOf? memory h = none := by
  unfold stringOf?
  rw [Option.map_eq_none_iff]

/-- The handle of a place in the table. -/
def handleOf (i : Nat) : UInt32 := UInt32.ofNat (i + 1)

theorem toNat_handleOf (hi : i < slots) : (handleOf i).toNat = i + 1 := by
  unfold slots at hi
  exact UInt32.toNat_ofNat_of_lt' (by unfold UInt32.size; omega)

theorem hasSlot_handleOf (hi : i < slots) : HasSlot (handleOf i) := by
  unfold HasSlot
  rw [toNat_handleOf hi]
  exact ⟨Nat.succ_pos i, hi⟩

theorem handleOf_pred (hh : HasSlot h) : handleOf (h.toNat - 1) = h := by
  unfold handleOf
  rw [Nat.sub_add_cancel hh.1, UInt32.ofNat_toNat]

theorem stringOf?_handleOf (hi : i < slots) (hw : wordAt memory (i * 16) = 0) :
    stringOf? memory (handleOf i) = none := by
  rw [stringOf?_eq_none_iff, slotOf?_eq_none_iff]
  intro _
  rw [slotAddress, toNat_handleOf hi]
  exact hw

/-- The lowest handle without a string is that of the first free slot. -/
theorem freeSlot?_of_lowest (hh : HasSlot h) (hd : stringOf? memory h = none)
    (hl : ∀ x, HasSlot x → x < h → stringOf? memory x ≠ none) :
    freeSlot? memory 0 = some (h.toNat - 1) := by
  have h₁ := hh.1
  have h₂ := hh.2
  refine freeSlot?_eq_some_iff.2 ⟨Nat.zero_le _, by omega, ?_, ?_⟩
  · exact slotOf?_eq_none_iff.1 (stringOf?_eq_none_iff.1 hd) hh
  · intro j _ hj hw
    have hs : j < slots := by omega
    refine hl _ (hasSlot_handleOf hs) ?_ (stringOf?_handleOf hs hw)
    rw [UInt32.lt_iff_toNat_lt, toNat_handleOf hs]
    omega

theorem freeSlot?_of_full (hf : ∀ x, HasSlot x → stringOf? memory x ≠ none) :
    freeSlot? memory 0 = none :=
  freeSlot?_eq_none_iff.2 fun _ _ hj hw => hf _ (hasSlot_handleOf hj) (stringOf?_handleOf hj hw)

theorem stringOf?_ne_none (hh : HasSlot h) (hw : wordAt memory ((h.toNat - 1) * 16) ≠ 0) :
    stringOf? memory h ≠ none := by
  rw [ne_eq, stringOf?_eq_none_iff, slotOf?_eq_none_iff]
  exact fun hn => hw (hn hh)

/-- Either all handles have a string or there is a lowest one without. -/
theorem full_or_exists_lowest (memory : ByteArray) :
    (∀ x, HasSlot x → stringOf? memory x ≠ none) ∨
      ∃ h, HasSlot h ∧ stringOf? memory h = none ∧
        ∀ x, HasSlot x → x < h → stringOf? memory x ≠ none := by
  cases hf : freeSlot? memory 0 with
  | none =>
    refine Or.inl fun x hx => stringOf?_ne_none hx ?_
    have h₂ := hx.2
    have h₁ := hx.1
    exact freeSlot?_eq_none_iff.1 hf _ (Nat.zero_le _) (by omega)
  | some i =>
    obtain ⟨-, hi, hw, hl⟩ := freeSlot?_eq_some_iff.1 hf
    refine Or.inr ⟨handleOf i, hasSlot_handleOf hi, stringOf?_handleOf hi hw, fun x hx hlt => ?_⟩
    rw [UInt32.lt_iff_toNat_lt, toNat_handleOf hi] at hlt
    have h₁ := hx.1
    exact stringOf?_ne_none hx (hl _ (Nat.zero_le _) (by omega))

/-- The string of a new instance. -/
def defaultText : ByteArray := "hey there".toUTF8

theorem size_defaultText : defaultText.size = 9 := rfl

theorem heap_ne_zero (hm : LaidOut m) : m.state.heap ≠ 0 := by
  have h₁ := hm.heap_ge
  intro e
  rw [e] at h₁
  exact absurd h₁ (by decide)

/-- The nul behind a new string. -/
theorem nul_fits (hm : LaidOut m) (hr : n.toNat < room m) :
    m.state.heap.toNat + n.toNat + (ByteArray.mk #[0]).size ≤ m.memory.size := by
  have h₁ : (ByteArray.mk #[0]).size = 1 := rfl
  have h₂ := hm.size_eq
  unfold room at hr
  omega

theorem toNat_next_of_room (hm : LaidOut m) (hr : n.toNat < room m) :
    (m.state.heap + (n + 1)).toNat = m.state.heap.toNat + (n.toNat + 1) := by
  have h₁ := hm.heap_le
  unfold room pageBytes at hr
  unfold pageBytes at h₁
  exact toNat_next (by unfold UInt32.size; omega)

/-- A string is laid out once the text is there, the slot is marked and describes it. -/
theorem stores_describe {M : ByteArray} (hm : LaidOut m) (hh : HasSlot h)
    (hr : n.toNat < room m) (hn : bytes.size = n.toNat) (hs : M.size = m.memory.size)
    (hM : ∀ i, i < m.state.heap.toNat → i < slotAddress h ∨ slotAddress h + 16 ≤ i →
      M[i]? = m.memory[i]?)
    (hw : wordAt M (slotAddress h) ≠ 0)
    (ht : M.extract m.state.heap.toNat (m.state.heap.toNat + bytes.size) = bytes) :
    Stores m h bytes ⟨describe M (slotAddress h) m.state.heap n,
      { m.state with heap := m.state.heap + (n + 1) }⟩ := by
  have h₁ := slotAddress_le hh
  have h₂ := hm.heap_ge
  have h₃ := hm.heap_le
  have hx := toNat_next_of_room hm hr
  have hd : slotAddress h + 16 ≤ M.size := by
    rw [hs, hm.size_eq]
    omega
  refine ⟨hh, ⟨(size_describe hd _ _).trans hs, fun i hi ho => ?_⟩, ?_, wordAt_describe_ptr hd, ?_,
    ?_, ?_, ?_⟩
  · rw [getElem?_describe hd (by omega), hM i hi ho]
  · rw [wordAt_congr fun k hk => getElem?_describe hd (by omega)]
    exact hw
  · rw [wordAt_describe_len hd, hn]
  · rw [extract_congr (size_describe hd _ _) fun i hi _ => getElem?_describe hd (by omega)]
    exact ht
  · rw [hx, hn]
  · rw [hx]
    unfold room at hr
    omega

theorem create_of_room (hm : LaidOut m) (hh : HasSlot h) (hd : stringOf? m.memory h = none)
    (hl : ∀ x, HasSlot x → x < h → stringOf? m.memory x ≠ none)
    (hr : defaultText.size < room m) :
    (create m).result = .ok h ∧ Stores m h defaultText (create m).machine := by
  have hn : defaultText.size = defaultLength.toNat := rfl
  rw [hn] at hr
  have h₁ := slotAddress_le hh
  have h₂ := hm.heap_ge
  have h₃ := nul_fits hm hr
  have hz := Nat.le_trans (Nat.le_add_right _ _) h₃
  -- the nul, then the text, then the mark, each in its own place
  have hs₁ := size_overwrite h₃
  have ht : (overwrite m.memory (m.state.heap.toNat + defaultLength.toNat) ⟨#[0]⟩).extract
      defaultAddress (defaultAddress + defaultLength.toNat) = defaultText := by
    have h₄ : defaultAddress + defaultLength.toNat = 521 := rfl
    rw [extract_overwrite_of_outside h₃ (Or.inl (by omega)), hm.text_eq]
    rfl
  unfold create
  rw [freeSlot?_of_lowest hh hd hl]
  dsimp only
  rw [allocate_of_room hm hr]
  dsimp only
  rw [if_neg (heap_ne_zero hm), ht, slotAddress_def]
  refine ⟨congrArg Except.ok (handleOf_pred hh), ?_⟩
  have hf₁ : ∀ i, i < m.state.heap.toNat →
      (overwrite m.memory (m.state.heap.toNat + defaultLength.toNat) ⟨#[0]⟩)[i]? = m.memory[i]? :=
    fun i hi => getElem?_overwrite_of_outside h₃ (by omega)
  generalize overwrite m.memory (m.state.heap.toNat + defaultLength.toNat) ⟨#[0]⟩ = M₁ at *
  have hb₂ : m.state.heap.toNat + defaultText.size ≤ M₁.size := by
    rw [hs₁, hn]
    omega
  have hs₂ := size_overwrite hb₂
  have hb₃ : slotAddress h + (ofWord 1).size ≤
      (overwrite M₁ m.state.heap.toNat defaultText).size := by
    rw [hs₂, size_ofWord]
    omega
  have hs₃ := size_overwrite hb₃
  refine stores_describe hm hh hr hn (hs₃.trans (hs₂.trans hs₁)) (fun i hi ho => ?_) ?_ ?_
  · rw [getElem?_overwrite_of_outside hb₃ (by rw [size_ofWord]; omega),
      getElem?_overwrite_of_outside hb₂ (by omega), hf₁ i hi]
  · exact fun hw => absurd ((wordAt_overwrite_ofWord 1 hb₃).symm.trans hw) (by decide)
  · rw [extract_overwrite_of_outside hb₃ (Or.inr (by rw [size_ofWord]; omega)),
      extract_overwrite_same hb₂]

/-- Without a free slot or without room a creation changes nothing. -/
theorem create_of_no_room (hm : LaidOut m)
    (hn : (∀ x, HasSlot x → stringOf? m.memory x ≠ none) ∨ room m ≤ defaultText.size) :
    create m = ⟨.ok 0, m, []⟩ := by
  unfold create
  cases hf : freeSlot? m.memory 0 with
  | none => rfl
  | some i =>
    rcases hn with hn | hn
    · rw [freeSlot?_of_full hn] at hf
      cases hf
    · rw [allocate_of_no_room (n := defaultLength) hm (by decide) hn]
      rfl

theorem slotWord_live (hs : slotOf? m.memory h = some slot) (offset : Nat) :
    slotWord offset h m = ⟨.ok (wordAt m.memory (slot + offset)), m, []⟩ := by
  unfold slotWord
  rw [hs]

theorem slotWord_dead (hs : slotOf? m.memory h = none) (offset : Nat) :
    slotWord offset h m = ⟨.ok 0, m, []⟩ := by
  unfold slotWord
  rw [hs]

theorem reserve_dead (hs : slotOf? m.memory h = none) (n : UInt32) :
    reserve h n m = ⟨.ok 0, m, []⟩ := by
  unfold reserve
  rw [hs]

theorem reserve_of_no_room (hm : LaidOut m) (hn : n.toNat < 2147483648) (hr : room m ≤ n.toNat) :
    reserve h n m = ⟨.ok 0, m, []⟩ := by
  unfold reserve
  cases slotOf? m.memory h with
  | none => rfl
  | some slot =>
    rw [allocate_of_no_room hm hn hr]
    rfl

/-- The text of a string that was just laid out may still be replaced. -/
theorem Stores.overwrite_text {text : ByteArray} (hm : LaidOut m) (s : Stores m h text m')
    (hn : bytes.size = text.size) :
    Stores m h bytes { m' with memory := overwrite m'.memory m.state.heap.toNat bytes } := by
  have h₁ := slotAddress_le s.hasSlot
  have h₂ := hm.heap_ge
  have hb : m.state.heap.toNat + bytes.size ≤ m'.memory.size := by
    rw [s.alike.size_eq, hm.size_eq, hn]
    exact Nat.le_trans (by rw [s.heap_eq]; omega) s.heap_le
  have hw : ∀ k, k + 4 ≤ 16 →
      wordAt (overwrite m'.memory m.state.heap.toNat bytes) (slotAddress h + k) =
        wordAt m'.memory (slotAddress h + k) :=
    fun k hk => wordAt_overwrite_of_outside hb (Or.inl (by omega))
  refine ⟨s.hasSlot, ⟨(size_overwrite hb).trans s.alike.size_eq, fun i hi ho => ?_⟩, ?_, ?_, ?_,
    extract_overwrite_same hb, ?_, s.heap_le⟩
  · rw [getElem?_overwrite_of_outside hb (Or.inl hi), s.alike.below i hi ho]
  · exact fun e => s.live ((hw 0 (by decide)).symm.trans e)
  · exact (hw 8 (by decide)).trans s.ptr_eq
  · rw [hw 12 (by decide), s.len_eq, hn]
  · rw [hn]
    exact s.heap_eq

/-- Where room was reserved, some string of that length is laid out. -/
theorem reserve_stores (hm : LaidOut m) (hs : slotOf? m.memory h = some slot)
    (hr : n.toNat < room m) :
    ∃ m' text, reserve h n m = ⟨.ok m.state.heap, m', []⟩ ∧ text.size = n.toNat ∧
      Stores m h text m' := by
  obtain ⟨hh, rfl, hw⟩ := slotOf?_eq_some_iff.1 hs
  have h₁ := slotAddress_le hh
  have h₂ := hm.heap_ge
  have h₃ := nul_fits hm hr
  have hc : reserve h n m = ⟨.ok m.state.heap,
      ⟨describe (overwrite m.memory (m.state.heap.toNat + n.toNat) ⟨#[0]⟩) (slotAddress h)
        m.state.heap n, { m.state with heap := m.state.heap + (n + 1) }⟩, []⟩ := by
    unfold reserve
    rw [hs]
    dsimp only
    rw [allocate_of_room hm hr]
    dsimp only
    rw [if_neg (heap_ne_zero hm)]
  have hs₁ := size_overwrite h₃
  have hf₁ : ∀ i, i < m.state.heap.toNat + n.toNat →
      (overwrite m.memory (m.state.heap.toNat + n.toNat) ⟨#[0]⟩)[i]? = m.memory[i]? :=
    fun i hi => getElem?_overwrite_of_outside h₃ (Or.inl hi)
  generalize overwrite m.memory (m.state.heap.toNat + n.toNat) ⟨#[0]⟩ = M at *
  -- the slot describes the bytes that happen to lie there, until the text is copied
  have hn : (M.extract m.state.heap.toNat (m.state.heap.toNat + n.toNat)).size = n.toNat := by
    rw [ByteArray.size_extract, hs₁]
    omega
  exact ⟨_, _, hc, hn, stores_describe hm hh hr hn hs₁ (fun i hi _ => hf₁ i (by omega))
    (by rw [wordAt_congr fun k hk => hf₁ _ (by omega)]; exact hw) (by rw [hn])⟩

/-- The string that is copied to where room was reserved is laid out. -/
theorem reserve_of_room (hm : LaidOut m) (hs : slotOf? m.memory h = some slot)
    (hr : n.toNat < room m) :
    ∃ m', reserve h n m = ⟨.ok m.state.heap, m', []⟩ ∧ m.state.heap ≠ 0 ∧
      m'.memory.size = m.memory.size ∧
      ∀ bytes : ByteArray, bytes.size = n.toNat →
        Stores m h bytes { m' with memory := overwrite m'.memory m.state.heap.toNat bytes } := by
  obtain ⟨m', text, hc, hn, st⟩ := reserve_stores hm hs hr
  exact ⟨m', hc, heap_ne_zero hm, st.alike.size_eq,
    fun bytes hb => st.overwrite_text hm (hb.trans hn.symm)⟩

theorem destroy_dead (hs : slotOf? m.memory h = none) : destroy h m = ⟨.ok (), m, []⟩ := by
  unfold destroy
  rw [hs]

theorem destroy_live (hm : LaidOut m) (hs : slotOf? m.memory h = some slot) :
    (destroy h m).result = .ok () ∧ Clears m h (destroy h m).machine := by
  obtain ⟨hh, rfl, -⟩ := slotOf?_eq_some_iff.1 hs
  have h₁ := slotAddress_le hh
  have h₂ := hm.size_eq
  unfold pageBytes at h₂
  have hb : slotAddress h + (ofWord 0).size ≤ m.memory.size := by
    rw [size_ofWord]
    omega
  unfold destroy
  rw [hs]
  refine ⟨rfl, hh, ⟨size_overwrite hb, fun i _ hi => ?_⟩, ?_, rfl⟩
  · exact getElem?_overwrite_of_outside hb (by rw [size_ofWord]; omega)
  · exact wordAt_overwrite_ofWord 0 hb

end HandleBridge.Guest.Record
