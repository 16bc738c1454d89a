import HandleBridge.Proofs.Json.Recognized

/-
  The spellings of a character, and what spells none.

  A character stands in a kept string as it is, by a short escape or by its number, which takes two
  escapes above U+FFFF (`Form`). There is nothing else that a kept string may hold: a control, an
  escape that is not known, and half of a pair are refused (`Flaw`), whatever follows.

  Proved:
  * `spelling_iff`: the spellings of the grammar are these forms.
  * `readString_flawed`: a string with a flaw in it is not read.
-/

namespace HandleBridge.Json

variable {cs ds es p rest w : List Char} {c : Char} {n : Nat}

/-! ## Forms -/

/-- The first half of the pair for a character above U+FFFF. -/
def highHalf (c : Char) : Nat := 0xd800 + (c.toNat - 0x10000) / 0x400

/-- The second half. -/
def lowHalf (c : Char) : Nat := 0xdc00 + (c.toNat - 0x10000) % 0x400

/-- The ways to write a character in a string: as it is, by a short escape, by its number in four
hexadecimal digits, or by those of a pair. -/
inductive Form (c : Char) : List Char → Prop where
  | raw : c ≠ '"' → c ≠ '\\' → 0x20 ≤ c.toNat → Form c [c]
  | short {e : Char} : shortEscape? e = some c → Form c ['\\', e]
  | numbered {ds : List Char} : Quad ds c.toNat → Form c ('\\' :: 'u' :: ds)
  | pair {ds es : List Char} : 0xffff < c.toNat → Quad ds (highHalf c) → Quad es (lowHalf c) →
      Form c ('\\' :: 'u' :: (ds ++ '\\' :: 'u' :: es))

theorem hexValue?_lt (h : hexValue? c = some n) : n < 16 := by
  unfold hexValue? at h
  simp only [Bool.and_eq_true, decide_eq_true_eq, Char.le_def, UInt32.le_iff_toNat_le] at h
  split at h
  · rename_i hc
    cases h
    have h₁ : c.val.toNat ≤ 57 := hc.2
    show c.val.toNat - 48 < 16
    omega
  split at h
  · rename_i hc
    cases h
    have h₁ : c.val.toNat ≤ 102 := hc.2
    show c.val.toNat - 97 + 10 < 16
    omega
  split at h
  · rename_i hc
    cases h
    have h₁ : c.val.toNat ≤ 70 := hc.2
    show c.val.toNat - 65 + 10 < 16
    omega
  · cases h

theorem Quad.lt (h : Quad ds n) : n < 0x10000 := by
  cases h with
  | mk h₁ h₂ h₃ h₄ =>
    have := hexValue?_lt h₁
    have := hexValue?_lt h₂
    have := hexValue?_lt h₃
    have := hexValue?_lt h₄
    omega

theorem isHighSurrogate_iff : isHighSurrogate n = true ↔ 0xd800 ≤ n ∧ n ≤ 0xdbff := by
  simp only [isHighSurrogate, Bool.and_eq_true, decide_eq_true_eq]

theorem isLowSurrogate_iff : isLowSurrogate n = true ↔ 0xdc00 ≤ n ∧ n ≤ 0xdfff := by
  simp only [isLowSurrogate, Bool.and_eq_true, decide_eq_true_eq]

/-- The numbers of characters are those that are no half of a pair. -/
theorem toNat_range (c : Char) : c.toNat < 0xd800 ∨ 0xdfff < c.toNat ∧ c.toNat < 0x110000 := c.valid

theorem toNat_ofNat (h : n < 0xd800 ∨ 0xdfff < n ∧ n < 0x110000) : (Char.ofNat n).toNat = n := by
  have hv : n.isValidChar := h
  rw [Char.ofNat, dif_pos hv]
  rfl

theorem not_surrogate (c : Char) :
    isLowSurrogate c.toNat = false ∧ isHighSurrogate c.toNat = false := by
  have h := toNat_range c
  rw [← Bool.not_eq_true, ← Bool.not_eq_true, isLowSurrogate_iff, isHighSurrogate_iff]
  omega

theorem pairChar_halves (h : 0xffff < c.toNat) : pairChar (highHalf c) (lowHalf c) = c := by
  have hn : (highHalf c - 0xd800) * 0x400 + (lowHalf c - 0xdc00) + 0x10000 = c.toNat := by
    unfold highHalf lowHalf
    omega
  unfold pairChar
  rw [hn, Char.ofNat_toNat]

theorem isHighSurrogate_highHalf (c : Char) : isHighSurrogate (highHalf c) = true := by
  have h := toNat_range c
  rw [isHighSurrogate_iff]
  unfold highHalf
  omega

theorem isLowSurrogate_lowHalf (c : Char) : isLowSurrogate (lowHalf c) = true := by
  rw [isLowSurrogate_iff]
  unfold lowHalf
  omega

theorem toNat_pairChar {high low : Nat} (hh : isHighSurrogate high = true)
    (hl : isLowSurrogate low = true) :
    (pairChar high low).toNat = (high - 0xd800) * 0x400 + (low - 0xdc00) + 0x10000 := by
  rw [isHighSurrogate_iff] at hh
  rw [isLowSurrogate_iff] at hl
  refine toNat_ofNat (.inr ?_)
  omega

/-- What the grammar takes for a character are its forms. -/
theorem spelling_iff : Spelling p c ↔ Form c p := by
  constructor
  · intro h
    cases h with
    | plain hq hb hc => exact .raw hq hb hc
    | short he => exact .short he
    | @numbered ds n hd hl hh =>
      have hn : (Char.ofNat n).toNat = n := by
        refine toNat_ofNat ?_
        have := hd.lt
        rw [← Bool.not_eq_true, isLowSurrogate_iff] at hl
        rw [← Bool.not_eq_true, isHighSurrogate_iff] at hh
        omega
      refine .numbered ?_
      rwa [hn]
    | @pair ds es high low hd he hh hl =>
      have hn := toNat_pairChar hh hl
      rw [isHighSurrogate_iff] at hh
      rw [isLowSurrogate_iff] at hl
      have hhigh : highHalf (pairChar high low) = high := by
        unfold highHalf
        omega
      have hlow : lowHalf (pairChar high low) = low := by
        unfold lowHalf
        omega
      refine .pair (by omega) ?_ ?_
      · rwa [hhigh]
      · rwa [hlow]
  · intro h
    cases h with
    | raw hq hb hc => exact .plain hq hb hc
    | short he => exact .short he
    | numbered hd =>
      obtain ⟨hl, hh⟩ := not_surrogate c
      have h := Spelling.numbered hd hl hh
      rwa [Char.ofNat_toNat] at h
    | pair hc hd he =>
      have h := Spelling.pair hd he (isHighSurrogate_highHalf c) (isLowSurrogate_lowHalf c)
      rwa [pairChar_halves hc] at h

/-! ## Flaws -/

/-- What stands in a string and spells no character, whatever follows: a control as it is, an escape
that is not known, half of a pair alone, or the first half with something else behind it. -/
inductive Flaw : List Char → Prop where
  | control {c : Char} {rest : List Char} : c.toNat < 0x20 → Flaw (c :: rest)
  | unknown {e : Char} {rest : List Char} : shortEscape? e = none → e ≠ 'u' →
      Flaw ('\\' :: e :: rest)
  | low {ds rest : List Char} {n : Nat} : Quad ds n → isLowSurrogate n = true →
      Flaw ('\\' :: 'u' :: (ds ++ rest))
  | high {ds rest : List Char} {n : Nat} : Quad ds n → isHighSurrogate n = true →
      (∀ es m more, rest = '\\' :: 'u' :: (es ++ more) → Quad es m → isLowSurrogate m = false) →
      Flaw ('\\' :: 'u' :: (ds ++ rest))

/-- A string behind its opening quote with a flaw in it, and any characters before that. -/
inductive Flawed : List Char → Prop where
  | flaw {w : List Char} : Flaw w → Flawed w
  | char {p w : List Char} {c : Char} : Spelling p c → Flawed w → Flawed (p ++ w)

theorem escape_u (cs : List Char) : escape ('u' :: cs) = numberedEscape cs := rfl

theorem numberedEscape_low (hd : Quad ds n) (hl : isLowSurrogate n = true) (rest : List Char) :
    numberedEscape (ds ++ rest) = .error .malformed := by
  unfold numberedEscape
  simp only [hexFour_quad hd, hl, if_true]

theorem numberedEscape_high (hd : Quad ds n) (hh : isHighSurrogate n = true)
    (hn : ∀ es m more, rest = '\\' :: 'u' :: (es ++ more) → Quad es m →
      isLowSurrogate m = false) : ∃ problem, numberedEscape (ds ++ rest) = .error problem := by
  unfold numberedEscape
  simp only [hexFour_quad hd, lowSurrogate_of_high hh, hh, Bool.false_eq_true, if_false, if_true]
  cases hs : secondHalf n rest with
  | error problem => exact ⟨problem, rfl⟩
  | ok r =>
    obtain ⟨es, low, he, hq, hl, -⟩ := exists_quad_of_secondHalf hs
    rw [hn es low r.2 he hq] at hl
    cases hl

theorem keptString_flaw (h : Flaw w) (before : List Char) :
    ∃ problem, keptString before w = .error problem := by
  cases h with
  | @control c rest hc =>
    have hq : c ≠ '"' := by
      rintro rfl
      exact absurd hc (by decide)
    have hb : c ≠ '\\' := by
      rintro rfl
      exact absurd hc (by decide)
    refine ⟨.malformed, ?_⟩
    rw [keptString, if_neg hq, if_neg hb, if_pos hc]
  | unknown he hu =>
    refine ⟨.malformed, keptString_escape_error ?_ before⟩
    simp only [escape, he, if_neg hu]
  | @low ds rest n hd hl =>
    have he := (escape_u (ds ++ rest)).trans (numberedEscape_low hd hl rest)
    exact ⟨.malformed, keptString_escape_error he before⟩
  | high hd hh hn =>
    obtain ⟨problem, hp⟩ := numberedEscape_high hd hh hn
    exact ⟨problem, keptString_escape_error ((escape_u _).trans hp) before⟩

theorem keptString_flawed (h : Flawed w) (before : List Char) :
    ∃ problem, keptString before w = .error problem := by
  induction h generalizing before with
  | flaw hf => exact keptString_flaw hf before
  | char hp _ ih =>
    rw [keptString_spelling hp]
    exact ih _

/-- A string with a flaw in it is not read, whatever stands before the flaw and behind it. -/
theorem readString_flawed (h : Flawed w) : ∃ problem, readString w = .error problem := by
  obtain ⟨problem, hp⟩ := keptString_flawed h []
  refine ⟨problem, ?_⟩
  unfold readString
  rw [hp]

end HandleBridge.Json
