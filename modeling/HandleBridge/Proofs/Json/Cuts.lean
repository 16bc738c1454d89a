import HandleBridge.Proofs.Json.Nesting

/-
  Strings, words and numbers that break off.

  A string or a word that breaks off is told from one that is wrong: the text has ended. A number
  may break off as a number, as the digits of a longer one do; directly behind its sign, its point
  or the letter of its exponent (`CutNumber`) it is none.

  Proved:
  * `keptString_cut`, `skipString_cut`: both ways of reading a string that breaks off.
  * `IsNumber.cut`: how a number may break off.
  * `readNumeral_cutNumber`: a number that breaks off badly is the problem that its reader was told
    to find at the end of the text.
-/

namespace HandleBridge.Json

variable {cs p s rest u v ds : List Char} {c : Char} {n : Nat}

/-- The text `v` as far as `p`, and not to its end. -/
def Cut (p v : List Char) : Prop := ∃ q, q ≠ [] ∧ p ++ q = v

theorem not_cut_nil : ¬ Cut p [] := by
  rintro ⟨q, hq, he⟩
  exact hq (List.append_eq_nil_iff.1 he).2

theorem Cut.of_cons (h : Cut p (c :: v)) : p = [] ∨ ∃ p', p = c :: p' ∧ Cut p' v := by
  obtain ⟨q, hq, he⟩ := h
  cases p with
  | nil => exact .inl rfl
  | cons d p =>
    cases he
    exact .inr ⟨p, rfl, q, hq, rfl⟩

theorem Cut.of_append (h : Cut p (u ++ v)) : Cut p u ∨ ∃ p', p = u ++ p' ∧ Cut p' v := by
  obtain ⟨q, hq, he⟩ := h
  rcases List.append_eq_append_iff.1 he with ⟨as, rfl, rfl⟩ | ⟨bs, rfl, rfl⟩
  · cases as with
    | nil => exact .inr ⟨[], by simp, v, hq, rfl⟩
    | cons a as => exact .inl ⟨a :: as, List.cons_ne_nil _ _, rfl⟩
  · exact .inr ⟨bs, rfl, q, hq, rfl⟩

theorem Cut.eq_nil (h : Cut p [c]) : p = [] := by
  rcases h.of_cons with rfl | ⟨p', -, h⟩
  · rfl
  · exact absurd h not_cut_nil

theorem Cut.isPrefix (h : Cut p v) : p <+: v := by
  obtain ⟨q, -, rfl⟩ := h
  exact List.prefix_append p q

theorem Cut.blanks {b : Blanks} (h : Cut p b.text) : ∃ b' : Blanks, p = b'.text :=
  ⟨⟨p, fun c hc => b.blank c (h.isPrefix.subset hc)⟩, rfl⟩

/-! ## Strings -/

theorem byteLength_cons (c : Char) (cs : List Char) :
    byteLength (c :: cs) = c.utf8Size + byteLength cs := by
  unfold byteLength
  rw [String.ofList_cons, String.utf8ByteSize_append]
  simp

theorem utf8Size_hex (h : hexValue? c = some n) : c.utf8Size = 1 := by
  have hle : c.val ≤ 127 := by
    unfold hexValue? at h
    simp only [Bool.and_eq_true, decide_eq_true_eq] at h
    split at h
    · rename_i hc
      exact UInt32.le_trans hc.2 (by decide)
    split at h
    · rename_i hc
      exact UInt32.le_trans hc.2 (by decide)
    split at h
    · rename_i hc
      exact UInt32.le_trans hc.2 (by decide)
    · cases h
  exact Char.utf8Size_eq_one_iff.2 hle

theorem hexFour_short (hl : p.length < 4) (hb : byteLength p < 4) :
    hexFour p = .error .endOfText := by
  match p with
  | [] => rfl
  | [_] => exact if_pos hb
  | [_, _] => exact if_pos hb
  | [_, _, _] => exact if_pos hb
  | _ :: _ :: _ :: _ :: _ =>
    simp only [List.length_cons] at hl
    omega

theorem hexFour_cut (h : Quad ds n) (hp : Cut p ds) : hexFour p = .error .endOfText := by
  cases h with
  | mk ha hb hc _ =>
    have h0 : byteLength [] = 0 := rfl
    rcases hp.of_cons with rfl | ⟨p₁, rfl, hp₁⟩
    · exact hexFour_short (by decide) (by decide)
    rcases hp₁.of_cons with rfl | ⟨p₂, rfl, hp₂⟩
    · refine hexFour_short (by simp) ?_
      rw [byteLength_cons, utf8Size_hex ha, h0]
      decide
    rcases hp₂.of_cons with rfl | ⟨p₃, rfl, hp₃⟩
    · refine hexFour_short (by simp) ?_
      rw [byteLength_cons, byteLength_cons, utf8Size_hex ha, utf8Size_hex hb, h0]
      decide
    · obtain rfl := hp₃.eq_nil
      refine hexFour_short (by simp) ?_
      rw [byteLength_cons, byteLength_cons, byteLength_cons, utf8Size_hex ha, utf8Size_hex hb,
        utf8Size_hex hc, h0]
      decide

theorem secondHalf_cut {high : Nat} (h : Quad ds n) (hp : Cut p ('\\' :: 'u' :: ds)) :
    secondHalf high p = .error .endOfText := by
  rcases hp.of_cons with rfl | ⟨p₁, rfl, hp₁⟩
  · rfl
  rcases hp₁.of_cons with rfl | ⟨p₂, rfl, hp₂⟩
  · rfl
  · simp only [secondHalf, and_self, if_true, hexFour_cut h hp₂]

theorem escape_of_hexFour (h : hexFour p = .error .endOfText) :
    escape ('u' :: p) = .error .endOfText := by
  have hu : shortEscape? 'u' = none := by decide
  simp only [escape, hu, if_true, numberedEscape, h]

theorem escape_cut (h : Spelling ('\\' :: v) c) (hp : Cut p v) :
    escape p = .error .endOfText := by
  cases h with
  | plain _ hb _ => exact absurd rfl hb
  | short _ =>
    obtain rfl := hp.eq_nil
    rfl
  | numbered hd _ _ =>
    rcases hp.of_cons with rfl | ⟨p₁, rfl, hp₁⟩
    · rfl
    · exact escape_of_hexFour (hexFour_cut hd hp₁)
  | pair hd he hh hl =>
    rcases hp.of_cons with rfl | ⟨p₁, rfl, hp₁⟩
    · rfl
    rcases hp₁.of_append with hp | ⟨p₂, rfl, hp₂⟩
    · exact escape_of_hexFour (hexFour_cut hd hp)
    · have hu : shortEscape? 'u' = none := by decide
      simp only [escape, hu, if_true, numberedEscape, hexFour_quad hd, lowSurrogate_of_high hh, hh,
        secondHalf_cut he hp₂, Bool.false_eq_true, if_false]

theorem keptString_nil (before : List Char) : keptString before [] = .error .endOfText := by
  rw [keptString]

theorem keptString_cut_spelling (h : Spelling v c) (hp : Cut p v) (before : List Char) :
    keptString before p = .error .endOfText := by
  obtain ⟨d, v, rfl⟩ : ∃ d v', v = d :: v' := by
    cases h <;> exact ⟨_, _, rfl⟩
  rcases hp.of_cons with rfl | ⟨p₁, rfl, hp₁⟩
  · exact keptString_nil before
  · have hd : d = '\\' := by
      cases h with
      | plain => exact absurd hp₁ not_cut_nil
      | _ => rfl
    subst hd
    exact keptString_escape_error (escape_cut h hp₁) before

/-- A kept string that breaks off has ended too early. -/
theorem keptString_cut (h : Spells v s) (hp : Cut p v) (before : List Char) :
    keptString before p = .error .endOfText := by
  induction h generalizing p before with
  | close =>
    obtain rfl := hp.eq_nil
    exact keptString_nil before
  | char hc _ ih =>
    rcases hp.of_append with hp | ⟨p₁, rfl, hp₁⟩
    · exact keptString_cut_spelling hc hp before
    · rw [keptString_spelling hc]
      exact ih hp₁ _

theorem readString_cut {s : String} (h : Spells v s.toList) (hp : Cut p v) :
    readString p = .error .endOfText := by
  unfold readString
  rw [keptString_cut h hp]

theorem readText_cut {s : String} (h : IsText v s) (hp : Cut p v) (b : Blanks) :
    readText (b.text ++ p) = .error .endOfText := by
  obtain ⟨body, rfl, hs⟩ := h
  unfold readText
  rcases hp.of_cons with rfl | ⟨p₁, rfl, hp₁⟩
  · rw [List.append_nil, skipBlanks_blanks]
  · rw [(starts_quote p₁).skipBlanks_eq b]
    exact readString_cut hs hp₁

theorem skipString_escape_error {problem : Problem} (h : skipEscape cs = .error problem) :
    skipString ('\\' :: cs) = .error problem := by
  rw [skipString, if_neg (by decide), if_pos rfl]
  split
  · rename_i he
    rw [h] at he
    cases he
    rfl
  · rename_i he
    rw [h] at he
    cases he

theorem skipString_cut_mark (h : Mark v) (hp : Cut p v) : skipString p = .error .endOfText := by
  cases h with
  | plain =>
    obtain rfl := hp.eq_nil
    rw [skipString]
  | short =>
    rcases hp.of_cons with rfl | ⟨p₁, rfl, hp₁⟩
    · rw [skipString]
    · obtain rfl := hp₁.eq_nil
      exact skipString_escape_error rfl
  | numbered hd =>
    rcases hp.of_cons with rfl | ⟨p₁, rfl, hp₁⟩
    · rw [skipString]
    rcases hp₁.of_cons with rfl | ⟨p₂, rfl, hp₂⟩
    · exact skipString_escape_error rfl
    · have hu : shortEscape? 'u' = none := by decide
      refine skipString_escape_error ?_
      simp only [skipEscape, hu, if_true, hexFour_cut hd hp₂]

/-- And so has a string that is only crossed. -/
theorem skipString_cut (h : Marks v) (hp : Cut p v) : skipString p = .error .endOfText := by
  induction h generalizing p with
  | close =>
    obtain rfl := hp.eq_nil
    rw [skipString]
  | mark hm _ ih =>
    rcases hp.of_append with hp | ⟨p₁, rfl, hp₁⟩
    · exact skipString_cut_mark hm hp
    · rw [skipString_mark hm]
      exact ih hp₁

theorem expectWord_cut (hp : Cut p v) : expectWord v p = .error .endOfText := by
  induction v generalizing p with
  | nil => exact absurd hp not_cut_nil
  | cons c v ih =>
    rcases hp.of_cons with rfl | ⟨p₁, rfl, hp₁⟩
    · rfl
    · rw [expectWord, if_pos rfl, ih hp₁]

/-! ## Numbers -/

/-- A number that breaks off directly behind its sign, its decimal point, the letter of its
exponent or the sign of its exponent. -/
inductive CutNumber : List Char → Prop where
  | sign : CutNumber ['-']
  | point {sign whole : List Char} : sign = [] ∨ sign = ['-'] → Whole whole →
      CutNumber (sign ++ (whole ++ ['.']))
  | exponent {sign whole fraction mark : List Char} {e : Char} : sign = [] ∨ sign = ['-'] →
      Whole whole → Fraction fraction → e = 'e' ∨ e = 'E' →
      mark = [] ∨ mark = ['+'] ∨ mark = ['-'] →
      CutNumber (sign ++ (whole ++ (fraction ++ e :: mark)))

theorem Digits.cut (h : Digits v) (hp : Cut p v) : p = [] ∨ Digits p := by
  by_cases hn : p = []
  · exact .inl hn
  · exact .inr ⟨hn, fun c hc => h.2 c (hp.isPrefix.subset hc)⟩

theorem Whole.cut (h : Whole v) (hp : Cut p v) : p = [] ∨ Whole p := by
  cases h with
  | zero => exact .inl hp.eq_nil
  | digits hz hd =>
    rcases hd.cut hp with rfl | hd'
    · exact .inl rfl
    rcases hp.of_cons with rfl | ⟨p₁, rfl, -⟩
    · exact .inl rfl
    · exact .inr (.digits hz hd')

theorem Fraction.cut (h : Fraction v) (hp : Cut p v) : p = ['.'] ∨ Fraction p := by
  cases h with
  | none => exact absurd hp not_cut_nil
  | point hd =>
    rcases hp.of_cons with rfl | ⟨p₁, rfl, hp₁⟩
    · exact .inr .none
    rcases hd.cut hp₁ with rfl | hd'
    · exact .inl rfl
    · exact .inr (.point hd')

theorem Exponent.cut (h : Exponent v) (hp : Cut p v) :
    (∃ e mark, p = e :: mark ∧ (e = 'e' ∨ e = 'E') ∧
      (mark = [] ∨ mark = ['+'] ∨ mark = ['-'])) ∨ Exponent p := by
  cases h with
  | none => exact absurd hp not_cut_nil
  | @some e sign ds he hs hd =>
    rcases hp.of_cons with rfl | ⟨p₁, rfl, hp₁⟩
    · exact .inr .none
    rcases hp₁.of_append with hp | ⟨p₂, rfl, hp₂⟩
    · refine .inl ⟨e, p₁, rfl, he, .inl ?_⟩
      rcases hs with rfl | rfl | rfl
      · exact absurd hp not_cut_nil
      · exact hp.eq_nil
      · exact hp.eq_nil
    rcases hd.cut hp₂ with rfl | hd'
    · exact .inl ⟨e, sign, by rw [List.append_nil], he, hs⟩
    · exact .inr (.some he hs hd')

theorem IsNumber.of_whole {sign : List Char} (hs : sign = [] ∨ sign = ['-']) (hw : Whole v) :
    IsNumber (sign ++ v) := by
  have h := IsNumber.mk hs hw .none .none
  rwa [List.append_nil, List.append_nil] at h

theorem IsNumber.of_fraction {sign : List Char} (hs : sign = [] ∨ sign = ['-']) (hw : Whole v)
    (hf : Fraction u) : IsNumber (sign ++ (v ++ u)) := by
  have h := IsNumber.mk hs hw hf .none
  rwa [List.append_nil] at h

/-- A number that breaks off is nothing yet, or ends badly, or is a shorter number. -/
theorem IsNumber.cut (h : IsNumber v) (hp : Cut p v) : p = [] ∨ CutNumber p ∨ IsNumber p := by
  obtain @⟨sign, whole, fraction, exponent, hs, hw, hf, hx⟩ := h
  rcases hp.of_append with hp | ⟨p₁, rfl, hp₁⟩
  · rcases hs with rfl | rfl
    · exact absurd hp not_cut_nil
    · exact .inl hp.eq_nil
  rcases hp₁.of_append with hp | ⟨p₂, rfl, hp₂⟩
  · rcases hw.cut hp with rfl | hw'
    · rcases hs with rfl | rfl
      · exact .inl rfl
      · exact .inr (.inl .sign)
    · exact .inr (.inr (.of_whole hs hw'))
  rcases hp₂.of_append with hp | ⟨p₃, rfl, hp₃⟩
  · rcases hf.cut hp with rfl | hf'
    · exact .inr (.inl (.point hs hw))
    · exact .inr (.inr (.of_fraction hs hw hf'))
  · rcases hx.cut hp₃ with ⟨e, mark, rfl, he, hm⟩ | hx'
    · exact .inr (.inl (.exponent hs hw hf he hm))
    · exact .inr (.inr (.mk hs hw hf hx'))

/-- The digits of a word, as far as they go. -/
theorem cut_toDigits (hp : Cut p (Nat.toDigits 10 n)) :
    p = [] ∨ ∃ m ≤ n, p = Nat.toDigits 10 m := by
  induction n using Nat.strongRecOn generalizing p with
  | ind n ih =>
    by_cases hn : n < 10
    · rw [Nat.toDigits_of_lt_base hn] at hp
      exact .inl hp.eq_nil
    · rw [Nat.toDigits_of_base_le (by decide) (by omega)] at hp
      rcases hp.of_append with hp | ⟨p₁, rfl, hp₁⟩
      · rcases ih (n / 10) (by omega) hp with rfl | ⟨m, hm, rfl⟩
        · exact .inl rfl
        · exact .inr ⟨m, by omega, rfl⟩
      · obtain rfl := hp₁.eq_nil
        exact .inr ⟨n / 10, by omega, List.append_nil _⟩

theorem someDigits_nil (atEnd : Problem) : someDigits atEnd [] = .error atEnd := rfl

theorem exponentSign_mark {mark : List Char} (hm : mark = [] ∨ mark = ['+'] ∨ mark = ['-']) :
    (exponentSign mark).2 = [] := by
  rcases hm with rfl | rfl | rfl
  all_goals rfl

theorem unsignedNumeral_point (atEnd : Problem) (negative : Bool) (hw : Whole v) :
    unsignedNumeral atEnd negative (v ++ ['.']) = .error atEnd := by
  have hd : EndsDigits ['.'] := by
    rintro c ⟨⟩
    decide
  have hf : fractionDigits atEnd ['.'] = .error atEnd := rfl
  simp only [unsignedNumeral, wholeDigits_append atEnd hw hd, hf]

theorem unsignedNumeral_exponent (atEnd : Problem) (negative : Bool) (hw : Whole v)
    (hf : Fraction u) (he : c = 'e' ∨ c = 'E') {mark : List Char}
    (hm : mark = [] ∨ mark = ['+'] ∨ mark = ['-']) :
    unsignedNumeral atEnd negative (v ++ (u ++ c :: mark)) = .error atEnd := by
  have hd : EndsDigits (c :: mark) := by
    rintro c ⟨⟩
    rcases he with rfl | rfl
    all_goals decide
  have hpoint : ∀ d ∈ (c :: mark).head?, d ≠ '.' := by
    rintro c ⟨⟩
    rcases he with rfl | rfl
    all_goals decide
  have hx : exponentDigits atEnd (c :: mark) = .error atEnd := by
    rw [exponentDigits, if_pos he, exponentSign_mark hm, someDigits_nil]
  obtain ⟨f, hf'⟩ := fractionDigits_append atEnd hf hd hpoint
  simp only [unsignedNumeral, wholeDigits_append atEnd hw (hf.endsDigits hd), hf', hx]

/-- A sign in front does not matter. -/
theorem readNumeral_of_unsigned {atEnd : Problem} {sign : List Char}
    (hs : sign = [] ∨ sign = ['-']) (hw : Whole v)
    (h : ∀ negative, unsignedNumeral atEnd negative (v ++ cs) = .error atEnd) :
    readNumeral atEnd (sign ++ (v ++ cs)) = .error atEnd := by
  rcases hs with rfl | rfl
  · obtain ⟨c, ds, rfl, hc⟩ := hw.head
    have hm : c ≠ '-' := by
      rintro rfl
      exact absurd hc (by decide)
    rw [List.nil_append, List.cons_append, readNumeral, if_neg hm]
    exact h false
  · rw [List.singleton_append, readNumeral, if_pos rfl]
    exact h true

theorem readNumeral_cutNumber (atEnd : Problem) (h : CutNumber p) :
    readNumeral atEnd p = .error atEnd := by
  cases h with
  | sign => rfl
  | point hs hw => exact readNumeral_of_unsigned hs hw fun _ => unsignedNumeral_point atEnd _ hw
  | exponent hs hw hf he hm =>
    exact readNumeral_of_unsigned hs hw fun _ => unsignedNumeral_exponent atEnd _ hw hf he hm

theorem head_of_sign {sign : List Char} (hs : sign = [] ∨ sign = ['-']) (hw : Whole v) :
    ∃ c ds, sign ++ (v ++ cs) = c :: ds ∧ startsNumber c = true ∧ isBlank c = false := by
  rcases hs with rfl | rfl
  · obtain ⟨c, ds, rfl, hc⟩ := hw.head
    exact ⟨_, _, rfl, startsNumber_of_isDigit hc, isBlank_of_isDigit hc⟩
  · exact ⟨_, _, rfl, by decide, by decide⟩

theorem CutNumber.head (h : CutNumber p) :
    ∃ c cs, p = c :: cs ∧ startsNumber c = true ∧ isBlank c = false := by
  cases h with
  | sign => exact ⟨_, _, rfl, by decide, by decide⟩
  | point hs hw => exact head_of_sign hs hw
  | exponent hs hw => exact head_of_sign hs hw

theorem CutNumber.starts (h : CutNumber p) : Starts p := by
  obtain ⟨c, cs, rfl, hc, hb⟩ := h.head
  refine ⟨c, cs, rfl, hb, ?_⟩
  rintro br rfl
  rw [startsNumber_of_close] at hc
  cases hc

theorem skipScalar_cutNumber (h : CutNumber (c :: cs)) : skipScalar c cs = .error .malformed := by
  obtain ⟨d, ds, he, hn, -⟩ := h.head
  cases he
  unfold skipScalar
  rw [if_neg, if_neg, if_neg, if_neg, if_pos hn, readNumeral_cutNumber _ h]
  all_goals
    rintro rfl
    exact absurd hn (by decide)

end HandleBridge.Json
