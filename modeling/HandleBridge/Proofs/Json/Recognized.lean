import HandleBridge.Proofs.Json.Records
import Mathlib.Data.List.Induction
import Mathlib.Data.List.TakeWhile

/-
  What is taken off a text is of the grammar.

  The other direction of the grammar: where a reader of a string, of a number or of a word succeeds,
  what it took is such a string, number or word, and the rest is what stands behind it. So a string
  ends in one place only, and stands for one text at most.

  Proved:
  * `exists_spells_of_keptString`, `exists_marks_of_skipString`: both ways of reading a string.
  * `IsText.unique`, `spells_of_readString`: what a string stands for, if anything.
  * `exists_isWord_of_readWord`: a word that is read stood there as its decimal digits.
-/

namespace HandleBridge.Json

variable {cs rest s body : List Char} {c : Char} {n : Nat}

theorem exists_blanks (cs : List Char) : ∃ b : Blanks, cs = b.text ++ skipBlanks cs :=
  ⟨⟨cs.takeWhile isBlank, fun _ hc => List.mem_takeWhile_imp hc⟩,
    List.takeWhile_append_dropWhile.symm⟩

theorem Starts.append_inj {b b' : Blanks} {u v : List Char} (h : Starts u) (h' : Starts v)
    (he : b.text ++ u = b'.text ++ v) : u = v := by
  rw [← h.skipBlanks_eq b, he, h'.skipBlanks_eq b']

/-! ## Strings -/

theorem exists_quad_of_hexFour (h : hexFour cs = .ok (n, rest)) :
    ∃ ds, cs = ds ++ rest ∧ Quad ds n := by
  unfold hexFour at h
  split at h
  · rename_i a b c d r
    split at h
    · rename_i ha hb hc hd
      cases h
      exact ⟨[a, b, c, d], rfl, .mk ha hb hc hd⟩
    · cases h
  · split at h <;> cases h

theorem exists_quad_of_secondHalf {high : Nat} (h : secondHalf high cs = .ok (c, rest)) :
    ∃ es low, cs = '\\' :: 'u' :: (es ++ rest) ∧ Quad es low ∧ isLowSurrogate low = true ∧
      c = pairChar high low := by
  match cs with
  | [] => cases h
  | [d] =>
    simp only [secondHalf] at h
    split at h <;> cases h
  | d :: e :: r =>
    simp only [secondHalf] at h
    split at h
    · rename_i he
      obtain ⟨rfl, rfl⟩ := he
      split at h
      · cases h
      · rename_i low r' hm
        obtain ⟨es, rfl, hq⟩ := exists_quad_of_hexFour hm
        split at h
        · rename_i hl
          simp only [Except.ok.injEq, Prod.mk.injEq] at h
          obtain ⟨rfl, rfl⟩ := h
          exact ⟨es, low, rfl, hq, hl, rfl⟩
        · cases h
    · cases h

theorem exists_spelling_of_numberedEscape (h : numberedEscape cs = .ok (c, rest)) :
    ∃ p, cs = p ++ rest ∧ Spelling ('\\' :: 'u' :: p) c := by
  unfold numberedEscape at h
  split at h
  · cases h
  · rename_i n r hn
    obtain ⟨ds, rfl, hq⟩ := exists_quad_of_hexFour hn
    split at h
    · cases h
    · rename_i hl
      split at h
      · rename_i hh
        obtain ⟨es, low, rfl, he, hlow, hc⟩ := exists_quad_of_secondHalf h
        rw [hc]
        refine ⟨ds ++ '\\' :: 'u' :: es, ?_, .pair hq he hh hlow⟩
        simp only [List.append_assoc, List.cons_append]
      · rename_i hh
        simp only [Except.ok.injEq, Prod.mk.injEq] at h
        obtain ⟨rfl, rfl⟩ := h
        rw [Bool.not_eq_true] at hl hh
        exact ⟨ds, rfl, .numbered hq hl hh⟩

theorem exists_spelling_of_escape (h : escape cs = .ok (c, rest)) :
    ∃ p, cs = p ++ rest ∧ Spelling ('\\' :: p) c := by
  unfold escape at h
  split at h
  · cases h
  · rename_i e r
    split at h
    · rename_i d he
      cases h
      exact ⟨[e], rfl, .short he⟩
    · split at h
      · rename_i hu
        subst hu
        obtain ⟨p, rfl, hp⟩ := exists_spelling_of_numberedEscape h
        exact ⟨'u' :: p, rfl, hp⟩
      · cases h

theorem exists_spells_of_keptString {before : List Char}
    (h : keptString before cs = .ok (s, rest)) :
    ∃ body t, cs = body ++ rest ∧ Spells body t ∧ s = before.reverse ++ t := by
  fun_induction keptString before cs with
  | case2 =>
    cases h
    exact ⟨['"'], [], rfl, .close, (List.append_nil _).symm⟩
  | case4 before _ _ _ hd _ _ ih =>
    obtain ⟨body, t, rfl, hb, rfl⟩ := ih h
    obtain ⟨p, rfl, hp⟩ := exists_spelling_of_escape hd
    refine ⟨'\\' :: p ++ body, _ :: t, ?_, .char hp hb, ?_⟩
    · simp
    · simp
  | case6 before c _ hq hb hc ih =>
    obtain ⟨body, t, rfl, hs, rfl⟩ := ih h
    refine ⟨[c] ++ body, c :: t, rfl, .char (.plain hq hb (Nat.not_lt.1 hc)) hs, ?_⟩
    simp
  | _ => cases h

theorem exists_spells_of_readString {s : String} (h : readString cs = .ok (s, rest)) :
    ∃ body, cs = body ++ rest ∧ Spells body s.toList := by
  unfold readString at h
  split at h
  · cases h
  · rename_i hk
    cases h
    obtain ⟨body, t, rfl, hb, rfl⟩ := exists_spells_of_keptString hk
    exact ⟨body, rfl, by simpa using hb⟩

theorem exists_isText_of_readText {s : String} (h : readText cs = .ok (s, rest)) :
    ∃ (b : Blanks) (v : List Char), cs = b.text ++ (v ++ rest) ∧ IsText v s := by
  obtain ⟨b, hb⟩ := exists_blanks cs
  unfold readText at h
  split at h
  · cases h
  · rename_i c r hc
    rw [hc] at hb
    split at h
    · rename_i hq
      subst hq
      obtain ⟨body, rfl, hs⟩ := exists_spells_of_readString h
      exact ⟨b, '"' :: body, hb, body, rfl, hs⟩
    · cases h

theorem exists_mark_of_skipEscape (h : skipEscape cs = .ok rest) :
    ∃ p, cs = p ++ rest ∧ Mark ('\\' :: p) := by
  unfold skipEscape at h
  split at h
  · cases h
  · rename_i e r
    split at h
    · rename_i d he
      cases h
      exact ⟨[e], rfl, .short he⟩
    · split at h
      · rename_i hu
        subst hu
        split at h
        · cases h
        · rename_i n r' hn
          cases h
          obtain ⟨ds, rfl, hq⟩ := exists_quad_of_hexFour hn
          exact ⟨'u' :: ds, rfl, .numbered hq⟩
      · cases h

theorem exists_marks_of_skipString (h : skipString cs = .ok rest) :
    ∃ body, cs = body ++ rest ∧ Marks body := by
  fun_induction skipString cs with
  | case2 =>
    cases h
    exact ⟨['"'], rfl, .close⟩
  | case4 _ _ hd _ _ ih =>
    obtain ⟨body, rfl, hb⟩ := ih h
    obtain ⟨p, rfl, hp⟩ := exists_mark_of_skipEscape hd
    exact ⟨'\\' :: p ++ body, by simp, .mark hp hb⟩
  | case6 c _ hq hb hc ih =>
    obtain ⟨body, rfl, hs⟩ := ih h
    exact ⟨[c] ++ body, rfl, .mark (.plain hq hb (Nat.not_lt.1 hc)) hs⟩
  | _ => cases h

/-- A kept string would also do where a string is only crossed. -/
theorem Spells.marks (h : Spells body s) : Marks body := by
  induction h with
  | close => exact .close
  | char hp _ ih =>
    cases hp with
    | plain hq hb hc => exact .mark (.plain hq hb hc) ih
    | short he => exact .mark (.short he) ih
    | numbered hq => exact .mark (.numbered hq) ih
    | pair hq he =>
      have h' := Marks.mark (.numbered hq) (Marks.mark (.numbered he) ih)
      simpa using h'

theorem IsText.isString {s : String} (h : IsText cs s) : IsString cs := by
  obtain ⟨body, rfl, hs⟩ := h
  exact ⟨body, rfl, hs.marks⟩

/-- Where a string ends does not depend on how it is read. -/
theorem Marks.append_inj {body' rest' : List Char} (h : Marks body) (h' : Marks body')
    (he : body ++ rest = body' ++ rest') : body = body' ∧ rest = rest' := by
  have hr := skipString_marks h rest
  rw [he, skipString_marks h' rest'] at hr
  cases hr
  exact ⟨List.append_cancel_right he, rfl⟩

/-- A string stands for at most one text. -/
theorem IsText.unique {s s' : String} (h : IsText cs s) (h' : IsText cs s') : s = s' := by
  obtain ⟨body, rfl, hs⟩ := h
  obtain ⟨body', he, hs'⟩ := h'
  cases he
  have hr := readString_spells hs []
  rw [readString_spells hs' []] at hr
  cases hr
  rfl

/-- If a string is read as a text at all, then it stands for that text. -/
theorem spells_of_readString {s : String} (hm : Marks body)
    (h : readString (body ++ cs) = .ok (s, rest)) : rest = cs ∧ Spells body s.toList := by
  obtain ⟨body', he, hs⟩ := exists_spells_of_readString h
  obtain ⟨rfl, rfl⟩ := hm.append_inj hs.marks he
  exact ⟨rfl, hs⟩

/-! ## Numbers -/

variable {atEnd : Problem} {ds : List Nat}

theorem isDigit_of_digitValue? {d : Nat} (h : digitValue? c = some d) :
    c.isDigit = true ∧ d = digitOf c := by
  unfold digitValue? at h
  split at h
  · rename_i hc
    cases h
    exact ⟨hc, rfl⟩
  · cases h

theorem exists_digits_of_takeDigits (h : takeDigits cs = (ds, rest)) :
    ∃ p : List Char, cs = p ++ rest ∧ ds = p.map digitOf ∧ (∀ c ∈ p, c.isDigit = true) ∧
      EndsDigits rest := by
  induction cs generalizing ds with
  | nil =>
    cases h
    exact ⟨[], rfl, rfl, List.forall_mem_nil _, fun c hc => nomatch hc⟩
  | cons c cs ih =>
    unfold takeDigits at h
    split at h
    · rename_i d hd
      obtain ⟨hc, rfl⟩ := isDigit_of_digitValue? hd
      cases h
      obtain ⟨p, hp, hm, hall, he⟩ := ih rfl
      refine ⟨c :: p, congrArg (c :: ·) hp, congrArg (digitOf c :: ·) hm, ?_, he⟩
      exact List.forall_mem_cons.2 ⟨hc, hall⟩
    · rename_i hd
      cases h
      refine ⟨[], rfl, rfl, List.forall_mem_nil _, ?_⟩
      rintro c ⟨⟩
      exact hd

theorem exists_digits_of_someDigits (h : someDigits atEnd cs = .ok (ds, rest)) :
    ∃ p, cs = p ++ rest ∧ Digits p ∧ ds = p.map digitOf ∧ EndsDigits rest := by
  unfold someDigits at h
  split at h
  · cases h
  · cases h
  · rename_i ht
    cases h
    obtain ⟨p, rfl, hm, hall, he⟩ := exists_digits_of_takeDigits ht
    refine ⟨p, rfl, ⟨?_, hall⟩, hm, he⟩
    rintro rfl
    cases hm

theorem exists_whole_of_wholeDigits (h : wholeDigits atEnd cs = .ok (ds, rest)) :
    ∃ p, cs = p ++ rest ∧ Whole p ∧ ds = p.map digitOf ∧ EndsDigits rest := by
  unfold wholeDigits at h
  split at h
  · cases h
  · rename_i hs
    obtain ⟨p, rfl, hp, hm, he⟩ := exists_digits_of_someDigits hs
    split at h
    · cases h
    · rename_i hz
      cases h
      refine ⟨p, rfl, ?_, hm, he⟩
      obtain ⟨c, p, rfl⟩ := List.exists_cons_of_ne_nil hp.1
      by_cases hc : c = '0'
      · -- A zero in front stands alone.
        subst hc
        cases p with
        | nil => exact .zero
        | cons d p => exact absurd hm (hz _ _)
      · exact .digits hc hp

theorem exists_fraction_of_fractionDigits {v : Option (List Nat)}
    (h : fractionDigits atEnd cs = .ok (v, rest)) :
    ∃ p, cs = p ++ rest ∧ Fraction p ∧ (v = none → p = [] ∧ ∀ c ∈ rest.head?, c ≠ '.') := by
  unfold fractionDigits at h
  split at h
  · cases h
    exact ⟨[], rfl, .none, fun _ => ⟨rfl, fun c hc => absurd hc (Option.not_mem_none c)⟩⟩
  · rename_i c cs
    split at h
    · rename_i hc
      subst hc
      split at h
      · cases h
      · rename_i hs
        cases h
        obtain ⟨p, rfl, hp, -, -⟩ := exists_digits_of_someDigits hs
        exact ⟨'.' :: p, rfl, .point hp, fun hv => absurd hv (Option.some_ne_none _)⟩
    · rename_i hc
      cases h
      refine ⟨[], rfl, .none, fun _ => ⟨rfl, ?_⟩⟩
      rintro c ⟨⟩
      exact hc

theorem exists_sign_of_exponentSign (cs : List Char) :
    ∃ sign, cs = sign ++ (exponentSign cs).2 ∧ (sign = [] ∨ sign = ['+'] ∨ sign = ['-']) := by
  unfold exponentSign
  split
  · exact ⟨[], rfl, .inl rfl⟩
  · rename_i c cs
    split
    · rename_i hc
      exact ⟨['+'], congrArg (· :: cs) hc, .inr (.inl rfl)⟩
    · split
      · rename_i hc
        exact ⟨['-'], congrArg (· :: cs) hc, .inr (.inr rfl)⟩
      · exact ⟨[], rfl, .inl rfl⟩

theorem exists_exponent_of_exponentDigits {v : Option (Bool × List Nat)}
    (h : exponentDigits atEnd cs = .ok (v, rest)) :
    ∃ p, cs = p ++ rest ∧ Exponent p ∧
      (v = none → p = [] ∧ ∀ c ∈ rest.head?, c ≠ 'e' ∧ c ≠ 'E') := by
  unfold exponentDigits at h
  split at h
  · cases h
    exact ⟨[], rfl, .none, fun _ => ⟨rfl, fun c hc => absurd hc (Option.not_mem_none c)⟩⟩
  · rename_i c cs
    split at h
    · rename_i hc
      split at h
      · cases h
      · rename_i hs
        cases h
        obtain ⟨sign, hsign, hor⟩ := exists_sign_of_exponentSign cs
        obtain ⟨p, hp, hd, -, -⟩ := exists_digits_of_someDigits hs
        refine ⟨c :: (sign ++ p), ?_, .some hc hor hd, fun hv => absurd hv (Option.some_ne_none _)⟩
        rw [hp] at hsign
        rw [hsign, List.cons_append, List.append_assoc]
    · rename_i hc
      cases h
      refine ⟨[], rfl, .none, fun _ => ⟨rfl, ?_⟩⟩
      rintro c ⟨⟩
      exact not_or.1 hc

/-- The parts of a number, and what follows one without fraction and exponent. -/
theorem exists_parts_of_unsignedNumeral {negative : Bool} {n : Numeral}
    (h : unsignedNumeral atEnd negative cs = .ok (n, rest)) :
    ∃ whole fraction exponent, cs = whole ++ (fraction ++ (exponent ++ rest)) ∧ Whole whole ∧
      Fraction fraction ∧ Exponent exponent ∧ n.negative = negative ∧
      n.whole = whole.map digitOf ∧
      (n.isWhole = true → fraction = [] ∧ exponent = [] ∧ EndsNumber rest) := by
  unfold unsignedNumeral at h
  split at h
  · cases h
  · rename_i hwhole
    obtain ⟨w, rfl, hw, rfl, hd⟩ := exists_whole_of_wholeDigits hwhole
    split at h
    · cases h
    · rename_i hfraction
      obtain ⟨f, rfl, hf, hpoint⟩ := exists_fraction_of_fractionDigits hfraction
      split at h
      · cases h
      · rename_i hexponent
        obtain ⟨x, rfl, hx, hletter⟩ := exists_exponent_of_exponentDigits hexponent
        cases h
        refine ⟨w, f, x, rfl, hw, hf, hx, rfl, rfl, fun hn => ?_⟩
        simp only [Numeral.isWhole, Bool.and_eq_true, Option.isNone_iff_eq_none] at hn
        obtain ⟨rfl, hp⟩ := hpoint hn.1
        obtain ⟨rfl, hl⟩ := hletter hn.2
        exact ⟨rfl, rfl, fun c hc => ⟨hd c hc, hp c hc, hl c hc⟩⟩

theorem exists_isNumber_of_readNumeral {n : Numeral} (h : readNumeral atEnd cs = .ok (n, rest)) :
    ∃ p, cs = p ++ rest ∧ IsNumber p := by
  unfold readNumeral at h
  split at h
  · cases h
  · split at h
    · rename_i hc
      subst hc
      obtain ⟨w, f, x, rfl, hw, hf, hx, -⟩ := exists_parts_of_unsignedNumeral h
      exact ⟨['-'] ++ (w ++ (f ++ x)), by simp, .mk (.inr rfl) hw hf hx⟩
    · obtain ⟨w, f, x, he, hw, hf, hx, -⟩ := exists_parts_of_unsignedNumeral h
      exact ⟨[] ++ (w ++ (f ++ x)), by simpa using he, .mk (.inl rfl) hw hf hx⟩

/-! ## Words -/

theorem digitOf_lt (hc : c.isDigit = true) : digitOf c < 10 := by
  have hle : c.toNat ≤ 57 := by
    simp only [Char.isDigit, Bool.and_eq_true, decide_eq_true_eq] at hc
    exact hc.2
  have h0 : '0'.toNat = 48 := rfl
  unfold digitOf
  omega

theorem digitChar_digitOf (hc : c.isDigit = true) : (digitOf c).digitChar = c := by
  have hall : ∀ d < 10, d.digitChar.toNat = 48 + d := by decide
  have hle : 48 ≤ c.toNat := by
    simp only [Char.isDigit, Bool.and_eq_true, decide_eq_true_eq] at hc
    exact hc.1
  have h0 : '0'.toNat = 48 := rfl
  refine Char.toNat_inj.1 ?_
  rw [hall _ (digitOf_lt hc)]
  unfold digitOf
  omega

theorem Whole.of_append (h : Whole (cs ++ [c])) (hn : cs ≠ []) :
    Whole cs ∧ cs ≠ ['0'] ∧ c.isDigit = true := by
  obtain ⟨d, cs, rfl⟩ := List.exists_cons_of_ne_nil hn
  generalize he : d :: cs ++ [c] = w at h
  cases h with
  | zero => simp at he
  | digits hz hd =>
    cases he
    have hall := List.forall_mem_append.1 (List.forall_mem_cons.1 hd.2).2
    refine ⟨.digits hz ⟨hn, List.forall_mem_cons.2 ⟨hd.2 d List.mem_cons_self, hall.1⟩⟩, ?_,
      hall.2 c (List.mem_singleton_self c)⟩
    rintro ⟨⟩
    exact hz rfl

/-- A natural number is written in one way only. -/
theorem Whole.eq_toDigits (h : Whole cs) :
    cs = Nat.toDigits 10 (Numeral.value (cs.map digitOf)) := by
  induction cs using List.reverseRecOn with
  | nil => cases h
  | append_singleton cs c ih =>
    by_cases hn : cs = []
    · subst hn
      obtain ⟨d, _, he, hd⟩ := h.head
      cases he
      have hv : Numeral.value ([c].map digitOf) = digitOf c := Nat.zero_add _
      rw [List.nil_append, hv, Nat.toDigits_of_lt_base (digitOf_lt hd), digitChar_digitOf hd]
    · obtain ⟨hw, hz, hc⟩ := h.of_append hn
      have hlt := digitOf_lt hc
      have hv : Numeral.value ((cs ++ [c]).map digitOf) =
          Numeral.value (cs.map digitOf) * 10 + digitOf c := by
        simp only [Numeral.value, List.map_append, List.foldl_append, List.map_cons, List.map_nil,
          List.foldl_cons, List.foldl_nil]
      have hpos : Numeral.value (cs.map digitOf) ≠ 0 := by
        intro h0
        rw [h0] at ih
        exact hz (ih hw)
      rw [hv, Nat.toDigits_of_base_le (by decide) (by omega)]
      rw [show (Numeral.value (cs.map digitOf) * 10 + digitOf c) / 10 =
          Numeral.value (cs.map digitOf) by omega,
        show (Numeral.value (cs.map digitOf) * 10 + digitOf c) % 10 = digitOf c by omega,
        ← ih hw, digitChar_digitOf hc]

theorem whole_of_toNumber {n : Numeral} {v : Nat} (h : n.toNumber = .ok (.natural v)) :
    n.isWhole = true ∧ n.negative = false ∧ v = Numeral.value n.whole ∧ v ≤ maxWord := by
  unfold Numeral.toNumber at h
  dsimp only at h
  split at h
  · rename_i hv
    cases h
    simp only [Bool.and_eq_true, decide_eq_true_eq, Bool.not_eq_true'] at hv
    exact ⟨hv.1.1, hv.1.2, rfl, hv.2⟩
  · split at h
    · cases h
    · split at h <;> cases h

/-- A word that is read stood there as its decimal digits, and nothing that could go on with
them follows. -/
theorem exists_isWord_of_readWord {expected : String} (h : readWord expected cs = .ok (n, rest)) :
    ∃ (b : Blanks) (v : List Char), cs = b.text ++ (v ++ rest) ∧ IsWord v n ∧ EndsNumber rest := by
  obtain ⟨b, hb⟩ := exists_blanks cs
  unfold readWord at h
  split at h
  · cases h
  rename_i c r hc
  rw [hc] at hb
  split at h
  · split at h
    · cases h
    rename_i m _ hm
    split at h
    · cases h
    · rename_i hv
      cases h
      obtain ⟨hwhole, hsign, rfl, hle⟩ := whole_of_toNumber hv
      rw [readNumeral] at hm
      split at hm
      · obtain ⟨_, _, _, _, _, _, _, hneg, -⟩ := exists_parts_of_unsignedNumeral hm
        rw [hneg] at hsign
        cases hsign
      · obtain ⟨w, f, x, he, hw, -, -, -, hd, hends⟩ := exists_parts_of_unsignedNumeral hm
        obtain ⟨rfl, rfl, hr⟩ := hends hwhole
        rw [he] at hb
        exact ⟨b, w, hb, ⟨hd ▸ hw.eq_toDigits, hle⟩, hr⟩
    · cases h
    · cases h
  · cases h

theorem eq_append_of_expectWord {word : List Char} (h : expectWord word cs = .ok rest) :
    cs = word ++ rest := by
  induction word generalizing cs with
  | nil =>
    cases h
    rfl
  | cons w word ih =>
    cases cs with
    | nil => cases h
    | cons c cs =>
      rw [expectWord] at h
      split at h
      · rename_i hc
        rw [hc, ih h, List.cons_append]
      · cases h

theorem exists_of_readWordOrNull {expected : String} {v : Option Nat}
    (h : readWordOrNull expected cs = .ok (v, rest)) :
    ∃ (b : Blanks) (t : List Char), cs = b.text ++ (t ++ rest) ∧ Kind.wordOrNull.Means t v ∧
      (v ≠ none → EndsNumber rest) := by
  obtain ⟨b, hb⟩ := exists_blanks cs
  unfold readWordOrNull at h
  split at h
  · cases h
  rename_i c r hc
  rw [hc] at hb
  split at h
  · rename_i hn
    subst hn
    split at h
    · cases h
    · rename_i hw
      cases h
      rw [eq_append_of_expectWord hw] at hb
      exact ⟨b, ['n', 'u', 'l', 'l'], hb, .inl ⟨rfl, rfl⟩, fun hv => absurd rfl hv⟩
  · split at h
    · cases h
    · rename_i hw
      cases h
      rw [← readWord_blanks expected b, ← hb] at hw
      obtain ⟨b', t, rfl, hword, hr⟩ := exists_isWord_of_readWord hw
      exact ⟨b', t, rfl, .inr ⟨_, rfl, hword⟩, fun _ => hr⟩

end HandleBridge.Json
