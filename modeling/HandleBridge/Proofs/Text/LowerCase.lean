import HandleBridge.Text.Identifier
import HandleBridge.Text.LowerCase

/-
  An identifier in lower case is an identifier.

  A capital that may stand in an identifier has a small form that may even start one: `caseRuns`
  and the ranges of `Identifier` come from the same property data, and that they fit together is
  one pass over both tables (`caseRuns_inLetters`). Two capitals are outside the table. The sigma
  becomes a letter either way; the dotted `İ` becomes `i` and a mark, which may follow.

  Proved:
  * `isIdentStart_lowerChar`, `isIdentContinue_lowerChar`: one character.
  * `lowerFrom_cons`: what a text begins with in lower case.
  * `isIdent_lowerFrom`, `isIdent_lowercase`: the whole identifier, behind any text and alone.
-/

namespace HandleBridge.Text

variable {c : Char}

/-! ## One character -/

/-- Of the ranges of letters only the two ASCII ones reach below U+0080. -/
theorem identStartRanges_ascii : ∀ p ∈ identStartRanges,
    p = (0x41, 0x5a) ∨ p = (0x61, 0x7a) ∨ 128 ≤ p.1 := by decide +kernel

theorem ascii_isAlpha : ∀ n < 128, 0x41 ≤ n ∧ n ≤ 0x5a ∨ 0x61 ≤ n ∧ n ≤ 0x7a →
    (Char.ofNat n).isAlpha = true := by decide +kernel

theorem isIdentStart_of_contains (h : identStartRanges.contains c = true) :
    isIdentStart c = true := by
  unfold isIdentStart
  split
  · rename_i hc
    obtain ⟨p, hp, h₁, h₂⟩ := (identStartRanges.contains_iff c).1 h
    have ha := ascii_isAlpha c.toNat hc
    rw [Char.ofNat_toNat] at ha
    have hr : c.isAlpha = true := by
      rcases identStartRanges_ascii p hp with rfl | rfl | hb
      · exact ha (.inl ⟨h₁, h₂⟩)
      · exact ha (.inr ⟨h₁, h₂⟩)
      · omega
    rw [hr, Bool.or_true]
  · rw [h, Bool.or_true]

/-- Where a character beyond ASCII that belongs into an identifier stands in the tables. -/
theorem exists_range_of_isIdentContinue (hc : ¬ c.toNat < 128) (h : isIdentContinue c = true) :
    ∃ p ∈ identStartRanges ++ identExtraRanges, p.1 ≤ c.toNat ∧ c.toNat ≤ p.2 := by
  have hu : (c == '_') = false := by
    rw [beq_eq_false_iff_ne]
    rintro rfl
    exact hc (by decide)
  simp only [isIdentContinue, isIdentStart, hu, if_neg hc, Bool.false_or, Bool.or_eq_true,
    CharRanges.contains_iff] at h
  rcases h with ⟨p, hp, hb⟩ | ⟨p, hp, hb⟩
  · exact ⟨p, List.mem_append_left _ hp, hb⟩
  · exact ⟨p, List.mem_append_right _ hp, hb⟩

/-- All small forms of the run lie in one range of letters, or no capital of the run belongs into
an identifier. -/
def CaseRun.inLetters (r : CaseRun) : Bool :=
  identStartRanges.any (fun p => p.1.ble r.small && (r.small + (r.last - r.first)).ble p.2 &&
      (p.2.blt 0xd800 || (Nat.blt 0xdfff p.1 && p.2.blt 0x110000))) ||
    (identStartRanges ++ identExtraRanges).all fun p => p.2.blt r.first || r.last.blt p.1

theorem caseRuns_inLetters : caseRuns.all CaseRun.inLetters = true := by decide +kernel

theorem toNat_ofNat {n : Nat} (h : n.isValidChar) : (Char.ofNat n).toNat = n := by
  rw [Char.ofNat, dif_pos h]
  rfl

/-- Beyond ASCII every capital in an identifier turns into a letter. -/
theorem isIdentStart_of_run {r : CaseRun} (hr : r ∈ caseRuns) (hc : ¬ c.toNat < 128)
    (h : isIdentContinue c = true) (h₁ : r.first ≤ c.toNat) (h₂ : c.toNat ≤ r.last) :
    isIdentStart (Char.ofNat (r.small + (c.toNat - r.first))) = true := by
  have hl := List.all_eq_true.1 caseRuns_inLetters r hr
  simp only [CaseRun.inLetters, Bool.or_eq_true, List.any_eq_true, List.all_eq_true,
    Bool.and_eq_true, Nat.ble_eq, Nat.blt_eq] at hl
  rcases hl with ⟨p, hp, ⟨hs, hb⟩, hv⟩ | ha
  · have hn : (Char.ofNat (r.small + (c.toNat - r.first))).toNat =
        r.small + (c.toNat - r.first) := by
      refine toNat_ofNat ?_
      unfold Nat.isValidChar
      omega
    refine isIdentStart_of_contains ((CharRanges.contains_iff _ _).2 ⟨p, hp, ?_⟩)
    rw [hn]
    omega
  · obtain ⟨p, hp, hb⟩ := exists_range_of_isIdentContinue hc h
    have := ha p hp
    omega

theorem ascii_toLower : ∀ n < 128,
    (Char.ofNat n).toLower = Char.ofNat n ∨ isIdentStart (Char.ofNat n).toLower = true := by
  decide +kernel

/-- In an identifier a character stays or turns into a letter. -/
theorem lowerChar_cases (h : isIdentContinue c = true) :
    lowerChar c = c ∨ isIdentStart (lowerChar c) = true := by
  by_cases hc : c.toNat < 128
  · have hl := ascii_toLower c.toNat hc
    rw [Char.ofNat_toNat] at hl
    have he : lowerChar c = c.toLower := if_pos hc
    rw [he]
    exact hl
  · unfold lowerChar
    simp only [if_neg hc]
    split
    · rename_i r hr
      have hb := List.find?_some hr
      simp only [Bool.and_eq_true, decide_eq_true_eq] at hb
      exact .inr (isIdentStart_of_run (List.mem_of_find?_eq_some hr) hc h hb.1.1 hb.1.2)
    · exact .inl rfl

theorem isIdentStart_lowerChar (h : isIdentStart c = true) : isIdentStart (lowerChar c) = true := by
  rcases lowerChar_cases (isIdentContinue_of_isIdentStart h) with hl | hl
  · rwa [hl]
  · exact hl

theorem isIdentContinue_lowerChar (h : isIdentContinue c = true) :
    isIdentContinue (lowerChar c) = true := by
  rcases lowerChar_cases h with hl | hl
  · rwa [hl]
  · exact isIdentContinue_of_isIdentStart hl

/-! ## Whole texts -/

/-- What the first character leaves is not empty, and starts an identifier if the character does. -/
theorem lowerFrom_cons (before cs : List Char) (h : isIdentContinue c = true) :
    ∃ d ds, lowerFrom before (c :: cs) = d :: (ds ++ lowerFrom (c :: before) cs) ∧
      (isIdentStart c = true → isIdentStart d = true) ∧ isIdentContinue d = true ∧
      ds.all isIdentContinue = true := by
  have hs : isIdentStart 'ς' = true ∧ isIdentStart 'σ' = true ∧ isIdentStart 'i' = true ∧
      isIdentContinue '\u0307' = true := by decide +kernel
  have hi := isIdentContinue_of_isIdentStart hs.2.2.1
  by_cases hc : c = 'Σ'
  · subst hc
    have hd : isIdentStart (if wordGoesOn before && !wordGoesOn cs then 'ς' else 'σ') = true := by
      split
      · exact hs.1
      · exact hs.2.1
    exact ⟨_, [], rfl, fun _ => hd, isIdentContinue_of_isIdentStart hd, rfl⟩
  by_cases hc' : c = 'İ'
  · subst hc'
    exact ⟨'i', ['\u0307'], rfl, fun _ => hs.2.2.1, hi, by simp [hs.2.2.2]⟩
  · refine ⟨lowerChar c, [], ?_, isIdentStart_lowerChar, isIdentContinue_lowerChar h, rfl⟩
    simp [lowerFrom, hc, hc']

theorem all_isIdentContinue_lowerFrom {cs : List Char} (h : cs.all isIdentContinue = true)
    (before : List Char) : (lowerFrom before cs).all isIdentContinue = true := by
  induction cs generalizing before with
  | nil => rfl
  | cons c cs ih =>
    rw [List.all_cons, Bool.and_eq_true] at h
    obtain ⟨d, ds, he, -, hd, hds⟩ := lowerFrom_cons before cs h.1
    rw [he, List.all_cons, List.all_append, hd, hds, ih h.2]
    rfl

theorem isIdent_lowerFrom {cs : List Char} (h : isIdent cs = true) (before : List Char) :
    isIdent (lowerFrom before cs) = true := by
  cases cs with
  | nil => cases h
  | cons c cs =>
    simp only [isIdent, Bool.and_eq_true] at h
    obtain ⟨d, ds, he, hd, -, hds⟩ :=
      lowerFrom_cons before cs (isIdentContinue_of_isIdentStart h.1)
    rw [he]
    simp only [isIdent, List.all_append, Bool.and_eq_true]
    exact ⟨hd h.1, hds, all_isIdentContinue_lowerFrom h.2 (c :: before)⟩

theorem isIdent_lowercase {s : String} (h : isIdent s.toList = true) :
    isIdent (lowercase s).toList = true := by
  rw [lowercase, String.toList_ofList]
  exact isIdent_lowerFrom h []

end HandleBridge.Text
