import HandleBridge.Text.Utf8
import Mathlib.Data.List.Basic

/-
  Well-formed UTF-8.

  A character is a first byte and up to three more. The first byte says how many there are, and
  all of them together carry a number. Such a sequence is well formed if no shorter one carries
  the number, and if the number is that of a character: neither a surrogate nor above U+10FFFF.
  Bytes are well formed if they are sequences of this sort one after another, the last one
  complete.

  Proved:
  * `carries_utf8EncodeChar`, `Carries.utf8EncodeChar_eq`: the sequence of a character.
  * `wellFormed_iff`: bytes are well formed exactly if they are the form of some text.
  * `decode?_isSome_iff`, `toUTF8_of_decode?`, `decode?_toUTF8`: reading is the inverse of writing.
-/

namespace HandleBridge.Text.Utf8

/-! ## Sequences -/

/-- The bytes have the pattern of a sequence, and carry a number. -/
inductive Carries : List UInt8 → Nat → Prop where
  | one {a : UInt8} : a.toNat < 0x80 → Carries [a] a.toNat
  | two {a b : UInt8} : 0xc0 ≤ a.toNat → a.toNat < 0xe0 → isContinuation b = true →
      Carries [a, b] ((a.toNat - 0xc0) * 64 + payload b)
  | three {a b c : UInt8} : 0xe0 ≤ a.toNat → a.toNat < 0xf0 → isContinuation b = true →
      isContinuation c = true →
      Carries [a, b, c] (((a.toNat - 0xe0) * 64 + payload b) * 64 + payload c)
  | four {a b c d : UInt8} : 0xf0 ≤ a.toNat → a.toNat < 0xf8 → isContinuation b = true →
      isContinuation c = true → isContinuation d = true →
      Carries [a, b, c, d]
        ((((a.toNat - 0xf0) * 64 + payload b) * 64 + payload c) * 64 + payload d)

/-- How many bytes the shortest sequence has that carries a number. -/
def shortest (n : Nat) : Nat :=
  if n ≤ 0x7f then 1 else if n ≤ 0x7ff then 2 else if n ≤ 0xffff then 3 else 4

/-- The number belongs to a character: it is no surrogate, and not too large. -/
def IsScalar (n : Nat) : Prop := ¬ (0xd800 ≤ n ∧ n ≤ 0xdfff) ∧ n ≤ 0x10ffff

/-- Sequences of characters, one after another. -/
inductive WellFormed : List UInt8 → Prop where
  | nil : WellFormed []
  | char {bs rest : List UInt8} {n : Nat} : Carries bs n → bs.length = shortest n → IsScalar n →
      WellFormed rest → WellFormed (bs ++ rest)

variable {a : UInt8} {bs : List UInt8} {n m : Nat} {c : Char} {b : ByteArray} {t : String}

theorem isContinuation_iff : isContinuation a = true ↔ 0x80 ≤ a.toNat ∧ a.toNat < 0xc0 := by
  unfold isContinuation
  rw [Bool.and_eq_true, decide_eq_true_eq, decide_eq_true_eq, UInt8.le_iff_toNat_le,
    UInt8.le_iff_toNat_le]
  show 0x80 ≤ a.toNat ∧ a.toNat ≤ 0xbf ↔ _
  omega

theorem payload_eq (h : isContinuation a = true) : payload a = a.toNat - 0x80 := by
  obtain ⟨h₁, h₂⟩ := isContinuation_iff.1 h
  unfold payload
  omega

theorem toNat_ofNat (h : n < 256) : (UInt8.ofNat n).toNat = n := UInt8.toNat_ofNat_of_lt' h

theorem ofNat_eq (h : n = a.toNat) : UInt8.ofNat n = a := by
  rw [h, UInt8.ofNat_toNat]

theorem isContinuation_ofNat (n : Nat) : isContinuation (UInt8.ofNat (n % 0x40 + 0x80)) = true := by
  rw [isContinuation_iff, toNat_ofNat (by omega)]
  omega

theorem payload_ofNat (n : Nat) : payload (UInt8.ofNat (n % 0x40 + 0x80)) = n % 0x40 := by
  rw [payload_eq (isContinuation_ofNat n), toNat_ofNat (by omega), Nat.add_sub_cancel]

theorem isScalar_toNat (c : Char) : IsScalar c.toNat := by
  have hv : c.toNat < 0xd800 ∨ 0xdfff < c.toNat ∧ c.toNat < 0x110000 := c.valid
  unfold IsScalar
  omega

theorem toNat_ofNat_of_isScalar (h : IsScalar n) : (Char.ofNat n).toNat = n := by
  have hv : n.isValidChar := by
    unfold Nat.isValidChar
    unfold IsScalar at h
    omega
  unfold Char.ofNat
  rw [dif_pos hv]
  exact UInt32.toNat_ofNatLT

theorem Carries.congr (h : Carries bs n) (e : n = m) : Carries bs m := e ▸ h

theorem utf8EncodeChar_one (h : c.toNat ≤ 0x7f) :
    String.utf8EncodeChar c = [UInt8.ofNat c.toNat] := if_pos h

theorem utf8EncodeChar_two (h : ¬ c.toNat ≤ 0x7f) (h' : c.toNat ≤ 0x7ff) :
    String.utf8EncodeChar c =
      [UInt8.ofNat (c.toNat / 64 % 0x20 + 0xc0), UInt8.ofNat (c.toNat % 0x40 + 0x80)] :=
  (if_neg h).trans (if_pos h')

theorem utf8EncodeChar_three (h : ¬ c.toNat ≤ 0x7ff) (h' : c.toNat ≤ 0xffff) :
    String.utf8EncodeChar c =
      [UInt8.ofNat (c.toNat / 4096 % 0x10 + 0xe0), UInt8.ofNat (c.toNat / 64 % 0x40 + 0x80),
        UInt8.ofNat (c.toNat % 0x40 + 0x80)] :=
  (if_neg (by change ¬ c.toNat ≤ _; omega)).trans ((if_neg h).trans (if_pos h'))

theorem utf8EncodeChar_four (h : ¬ c.toNat ≤ 0xffff) :
    String.utf8EncodeChar c =
      [UInt8.ofNat (c.toNat / 262144 % 0x08 + 0xf0), UInt8.ofNat (c.toNat / 4096 % 0x40 + 0x80),
        UInt8.ofNat (c.toNat / 64 % 0x40 + 0x80), UInt8.ofNat (c.toNat % 0x40 + 0x80)] :=
  (if_neg (by change ¬ c.toNat ≤ _; omega)).trans
    ((if_neg (by change ¬ c.toNat ≤ _; omega)).trans (if_neg h))

/-- The bytes of a character carry its number, and no fewer could. -/
theorem carries_utf8EncodeChar (c : Char) : Carries (String.utf8EncodeChar c) c.toNat ∧
    (String.utf8EncodeChar c).length = shortest c.toNat := by
  have hmax := (isScalar_toNat c).2
  unfold shortest
  by_cases h₁ : c.toNat ≤ 0x7f
  · have ha : (UInt8.ofNat c.toNat).toNat = c.toNat := toNat_ofNat (by omega)
    rw [utf8EncodeChar_one h₁, if_pos h₁]
    exact ⟨(Carries.one (by omega)).congr ha, rfl⟩
  by_cases h₂ : c.toNat ≤ 0x7ff
  · have ha : (UInt8.ofNat (c.toNat / 64 % 0x20 + 0xc0)).toNat = c.toNat / 64 % 0x20 + 0xc0 :=
      toNat_ofNat (by omega)
    rw [utf8EncodeChar_two h₁ h₂, if_neg h₁, if_pos h₂]
    refine ⟨(Carries.two (by omega) (by omega) (isContinuation_ofNat _)).congr ?_, rfl⟩
    rw [ha, payload_ofNat]
    omega
  by_cases h₃ : c.toNat ≤ 0xffff
  · have ha : (UInt8.ofNat (c.toNat / 4096 % 0x10 + 0xe0)).toNat = c.toNat / 4096 % 0x10 + 0xe0 :=
      toNat_ofNat (by omega)
    rw [utf8EncodeChar_three h₂ h₃, if_neg h₁, if_neg h₂, if_pos h₃]
    refine ⟨(Carries.three (by omega) (by omega) (isContinuation_ofNat _)
      (isContinuation_ofNat _)).congr ?_, rfl⟩
    rw [ha, payload_ofNat, payload_ofNat]
    omega
  · have ha : (UInt8.ofNat (c.toNat / 262144 % 0x08 + 0xf0)).toNat =
        c.toNat / 262144 % 0x08 + 0xf0 := toNat_ofNat (by omega)
    rw [utf8EncodeChar_four h₃, if_neg h₁, if_neg h₂, if_neg h₃]
    refine ⟨(Carries.four (by omega) (by omega) (isContinuation_ofNat _) (isContinuation_ofNat _)
      (isContinuation_ofNat _)).congr ?_, rfl⟩
    rw [ha, payload_ofNat, payload_ofNat, payload_ofNat]
    omega

/-- Numbers that take more than so many bytes are large. -/
theorem lt_of_two_le_shortest (h : 2 ≤ shortest n) : 0x7f < n := by
  unfold shortest at h
  split at h
  · omega
  · omega

theorem lt_of_three_le_shortest (h : 3 ≤ shortest n) : 0x7ff < n := by
  unfold shortest at h
  split at h
  · omega
  · split at h
    · omega
    · omega

theorem lt_of_four_le_shortest (h : 4 ≤ shortest n) : 0xffff < n := by
  unfold shortest at h
  split at h
  · omega
  · split at h
    · omega
    · split at h
      · omega
      · omega

/-- There is only one sequence for each character. -/
theorem Carries.utf8EncodeChar_eq (h : Carries bs n) (hl : bs.length = shortest n)
    (hc : c.toNat = n) : String.utf8EncodeChar c = bs := by
  have hle := Nat.le_of_eq hl
  cases h with
  | @one a ha => rw [utf8EncodeChar_one (by omega), ofNat_eq hc]
  | @two a b ha ha' hb =>
    have hn := lt_of_two_le_shortest hle
    have hb' := isContinuation_iff.1 hb
    rw [payload_eq hb] at hc hn
    rw [utf8EncodeChar_two (by omega) (by omega), ofNat_eq (a := a) (by omega),
      ofNat_eq (a := b) (by omega)]
  | @three a b d ha ha' hb hd =>
    have hn := lt_of_three_le_shortest hle
    have hb' := isContinuation_iff.1 hb
    have hd' := isContinuation_iff.1 hd
    rw [payload_eq hb, payload_eq hd] at hc hn
    rw [utf8EncodeChar_three (by omega) (by omega), ofNat_eq (a := a) (by omega),
      ofNat_eq (a := b) (by omega), ofNat_eq (a := d) (by omega)]
  | @four a b d e ha ha' hb hd he =>
    have hn := lt_of_four_le_shortest hle
    have hb' := isContinuation_iff.1 hb
    have hd' := isContinuation_iff.1 hd
    have he' := isContinuation_iff.1 he
    rw [payload_eq hb, payload_eq hd, payload_eq he] at hc hn
    rw [utf8EncodeChar_four (by omega), ofNat_eq (a := a) (by omega), ofNat_eq (a := b) (by omega),
      ofNat_eq (a := d) (by omega), ofNat_eq (a := e) (by omega)]

/-! ## Texts -/

theorem WellFormed.of_chars (cs : List Char) : WellFormed (cs.flatMap String.utf8EncodeChar) := by
  induction cs with
  | nil => exact .nil
  | cons c cs ih =>
    obtain ⟨hc, hl⟩ := carries_utf8EncodeChar c
    rw [List.flatMap_cons]
    exact .char hc hl (isScalar_toNat c) ih

theorem WellFormed.exists_chars (h : WellFormed bs) :
    ∃ cs : List Char, cs.flatMap String.utf8EncodeChar = bs := by
  induction h with
  | nil => exact ⟨[], rfl⟩
  | @char bs rest n hc hl hs _ ih =>
    obtain ⟨cs, rfl⟩ := ih
    refine ⟨Char.ofNat n :: cs, ?_⟩
    rw [List.flatMap_cons, hc.utf8EncodeChar_eq hl (toNat_ofNat_of_isScalar hs)]

/-- Well-formed bytes are those that are the form of a text. -/
theorem wellFormed_iff : WellFormed b.data.toList ↔ b.IsValidUTF8 := by
  constructor
  · intro h
    obtain ⟨cs, hcs⟩ := h.exists_chars
    have hb : b = b.data.toList.toByteArray := ByteArray.ext List.data_toByteArray.symm
    exact ⟨cs, by rw [List.utf8Encode, hcs, ← hb]⟩
  · rintro ⟨cs, rfl⟩
    rw [List.utf8Encode, List.toList_data_toByteArray]
    exact .of_chars cs

theorem decode?_isSome_iff : (decode? b).isSome ↔ WellFormed b.data.toList := by
  rw [wellFormed_iff]
  unfold decode? String.fromUTF8?
  split
  · rename_i h
    exact ⟨fun _ => h, fun _ => rfl⟩
  · rename_i h
    exact ⟨fun hn => absurd hn (by decide), fun hv => absurd hv h⟩

/-- What was read is written as the same bytes. -/
theorem toUTF8_of_decode? (h : decode? b = some t) : t.toUTF8 = b := by
  unfold decode? String.fromUTF8? at h
  split at h
  · cases h
    rfl
  · cases h

/-- What was written is read as the same text. -/
theorem decode?_toUTF8 (t : String) : decode? t.toUTF8 = some t := by
  unfold decode? String.fromUTF8?
  exact dif_pos t.isValidUTF8

theorem decodeLossy_toUTF8 (t : String) : decodeLossy t.toUTF8 = t := by
  unfold decodeLossy
  rw [decode?_toUTF8]

end HandleBridge.Text.Utf8
