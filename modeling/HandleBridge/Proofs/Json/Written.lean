import HandleBridge.Json.Fields
import HandleBridge.Proofs.Json.Grammar

/-
  What is written is of the grammar.

  A text is written as a string that stands for it, whatever characters it has. A number is
  written with its decimal digits, of which the first one is a zero only if it is the only one. So
  both are read back, where the text goes on with something else.

  Proved:
  * `isText_written`: a written text is a string that stands for it.
  * `readWord_toDigits`, `readWordOrNull_toDigits`: words are read back.
-/

namespace HandleBridge.Json

/-! ## Strings -/

theorem hexValue?_lowHex : ∀ d < 16, hexValue? (lowHex d) = some d := by decide

/-- What is written stands for itself. -/
theorem spelling_writtenChar (c : Char) : Spelling (writtenChar c) c := by
  unfold writtenChar
  iterate 7
    split
    · subst_vars
      exact .short (by decide)
  split
  · rename_i hc
    have hl : isLowSurrogate c.toNat = false := by
      simp only [isLowSurrogate, Bool.and_eq_false_iff, decide_eq_false_iff_not]
      omega
    have hh : isHighSurrogate c.toNat = false := by
      simp only [isHighSurrogate, Bool.and_eq_false_iff, decide_eq_false_iff_not]
      omega
    have h0 : hexValue? '0' = some 0 := by decide
    have hq := Quad.mk h0 h0 (hexValue?_lowHex (c.toNat / 16) (by omega))
      (hexValue?_lowHex (c.toNat % 16) (by omega))
    have hv : ((0 * 16 + 0) * 16 + c.toNat / 16) * 16 + c.toNat % 16 = c.toNat := by omega
    rw [hv] at hq
    have hs := Spelling.numbered hq hl hh
    rwa [Char.ofNat_toNat] at hs
  · rename_i hq hb _ _ _ _ _ hc
    exact .plain hq hb (Nat.not_lt.1 hc)

theorem spells_flatMap (s : List Char) : Spells (s.flatMap writtenChar ++ ['"']) s := by
  induction s with
  | nil => exact .close
  | cons c s ih =>
    rw [List.flatMap_cons, List.append_assoc]
    exact .char (spelling_writtenChar c) ih

theorem isText_written (s : String) : IsText (written s) s :=
  ⟨_, rfl, spells_flatMap s.toList⟩

/-- A member as it is written. -/
def Entry.written (key : String) (value : List Char) : Entry :=
  ⟨⟨noBlanks, value, noBlanks⟩, noBlanks, Json.written key, noBlanks⟩

theorem Entry.text_written (key : String) (value : List Char) :
    (Entry.written key value).text = member key value := by
  simp [Entry.text, Element.text, Entry.written, noBlanks, member]

/-! ## Numbers -/

/-- Only zero is written with a zero in front. -/
theorem toDigits_of_pos {n : Nat} (hn : 0 < n) :
    ∃ c cs, Nat.toDigits 10 n = c :: cs ∧ digitOf c ≠ 0 := by
  induction n using Nat.strongRecOn with
  | ind n ih =>
    by_cases h : n < 10
    · refine ⟨n.digitChar, [], Nat.toDigits_of_lt_base h, ?_⟩
      have hd : ∀ d < 10, 0 < d → digitOf d.digitChar ≠ 0 := by decide
      exact hd n h hn
    · obtain ⟨c, cs, hc, hd⟩ := ih (n / 10) (by omega) (by omega)
      refine ⟨c, cs ++ [(n % 10).digitChar], ?_, hd⟩
      rw [Nat.toDigits_of_base_le (by decide) (Nat.le_of_not_lt h), hc]
      rfl

theorem value_toDigits (n : Nat) : Numeral.value ((Nat.toDigits 10 n).map digitOf) = n := by
  have h : Nat.ofDigitChars 10 (Nat.toDigits 10 n) 0 = n :=
    Nat.ofDigitChars_toDigits (by decide) (by decide)
  have hf : (fun a c => a * 10 + digitOf c) = fun a c => 10 * a + (c.toNat - '0'.toNat) := by
    funext a c
    rw [Nat.mul_comm]
    rfl
  unfold Numeral.value
  rw [List.foldl_map, hf]
  exact h

theorem isDigit_of_mem_toDigits {n : Nat} {c : Char} (hc : c ∈ Nat.toDigits 10 n) :
    c.isDigit = true := Nat.isDigit_of_mem_toDigits (by decide) (by decide) hc

theorem toDigits_eq_cons (n : Nat) : ∃ c cs, Nat.toDigits 10 n = c :: cs ∧ c.isDigit = true := by
  cases hc : Nat.toDigits 10 n with
  | nil => exact absurd hc Nat.toDigits_ne_nil
  | cons c cs =>
    refine ⟨c, cs, rfl, isDigit_of_mem_toDigits (n := n) ?_⟩
    rw [hc]
    exact List.mem_cons_self

theorem whole_toDigits (n : Nat) : Whole (Nat.toDigits 10 n) := by
  cases n with
  | zero => exact .zero
  | succ n =>
    obtain ⟨c, cs, hc, hz⟩ := toDigits_of_pos (Nat.succ_pos n)
    have hd : Digits (Nat.toDigits 10 (n + 1)) :=
      ⟨Nat.toDigits_ne_nil, fun c hc => isDigit_of_mem_toDigits hc⟩
    rw [hc] at hd ⊢
    refine .digits ?_ hd
    rintro rfl
    exact hz rfl

theorem readNumeral_toDigits (atEnd : Problem) (n : Nat) {rest : List Char}
    (hr : EndsNumber rest) :
    readNumeral atEnd (Nat.toDigits 10 n ++ rest) =
      .ok (⟨false, (Nat.toDigits 10 n).map digitOf, none, none⟩, rest) := by
  have hu : unsignedNumeral atEnd false (Nat.toDigits 10 n ++ rest) =
      .ok (⟨false, (Nat.toDigits 10 n).map digitOf, none, none⟩, rest) := by
    have hp := fractionDigits_none atEnd fun c hc => (hr c hc).2.1
    simp only [unsignedNumeral, wholeDigits_append atEnd (whole_toDigits n) hr.endsDigits, hp,
      exponentDigits_none atEnd hr]
  obtain ⟨c, cs, hc, hd⟩ := toDigits_eq_cons n
  have hm : c ≠ '-' := by
    rintro rfl
    exact absurd hd (by decide)
  rw [hc, List.cons_append] at hu ⊢
  rw [readNumeral, if_neg hm]
  exact hu

theorem toNumber_toDigits {n : Nat} (hn : n ≤ maxWord) :
    (⟨false, (Nat.toDigits 10 n).map digitOf, none, none⟩ : Numeral).toNumber =
      .ok (.natural n) := by
  unfold Numeral.toNumber
  rw [value_toDigits]
  exact if_pos (by simpa [Numeral.isWhole] using hn)

theorem readWord_toDigits (expected : String) {n : Nat} (hn : n ≤ maxWord) {rest : List Char}
    (hr : EndsNumber rest) :
    readWord expected (Nat.toDigits 10 n ++ rest) = .ok (n, rest) := by
  have hv := readNumeral_toDigits .endOfText n hr
  obtain ⟨c, cs, hc, hd⟩ := toDigits_eq_cons n
  have ht := toNumber_toDigits hn
  unfold readWord
  rw [hc] at hv ht ⊢
  rw [List.cons_append] at hv ⊢
  rw [skipBlanks_of_not_blank (isBlank_of_isDigit hd)]
  simp only [startsNumber_of_isDigit hd, if_true, hv, ht]

theorem readWordOrNull_toDigits (expected : String) {n : Nat} (hn : n ≤ maxWord)
    {rest : List Char} (hr : EndsNumber rest) :
    readWordOrNull expected (Nat.toDigits 10 n ++ rest) = .ok (some n, rest) := by
  have hv := readWord_toDigits expected hn hr
  obtain ⟨c, cs, hc, hd⟩ := toDigits_eq_cons n
  have hne : c ≠ 'n' := by
    rintro rfl
    exact absurd hd (by decide)
  unfold readWordOrNull
  rw [hc, List.cons_append] at hv ⊢
  rw [skipBlanks_of_not_blank (isBlank_of_isDigit hd)]
  simp only [if_neg hne, hv]

theorem readWordOrNull_null (expected : String) (rest : List Char) :
    readWordOrNull expected ('n' :: 'u' :: 'l' :: 'l' :: rest) = .ok (none, rest) := by
  unfold readWordOrNull
  rw [skipBlanks_of_not_blank (by decide)]
  rfl

end HandleBridge.Json
