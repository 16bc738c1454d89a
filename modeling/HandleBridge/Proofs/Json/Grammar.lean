import HandleBridge.Json.Fields

/-
  The grammar of JSON, and how strings and numbers are read.

  The grammar builds texts up and mentions no reader. A string is said in two ways, as it is
  read: kept strings stand for a text (`Spells`), skipped ones need not stand for any (`Marks`).
  Values nest to any depth (`IsValue`); what stands between two brackets are pieces with commas
  between them (`joined`), each with the blanks around it.

  Proved:
  * `keptString_spells`, `skipString_marks`: both ways of reading a string take off all of it.
  * `readNumeral_number`: so does reading a number, where the text goes on with something else.
-/

namespace HandleBridge.Json

/-! ## The grammar -/

/-- A text of blanks, maybe of none. -/
structure Blanks where
  text : List Char
  blank : ∀ c ∈ text, isBlank c = true

/-- The text without blanks. -/
def noBlanks : Blanks := ⟨[], List.forall_mem_nil _⟩

/-- Four hexadecimal digits, and their value. -/
inductive Quad : List Char → Nat → Prop where
  | mk {a b c d : Char} {x y z w : Nat} : hexValue? a = some x → hexValue? b = some y →
      hexValue? c = some z → hexValue? d = some w →
      Quad [a, b, c, d] (((x * 16 + y) * 16 + z) * 16 + w)

/-- The ways in which a character may stand in a string. -/
inductive Spelling : List Char → Char → Prop where
  | plain {c : Char} : c ≠ '"' → c ≠ '\\' → 0x20 ≤ c.toNat → Spelling [c] c
  | short {e c : Char} : shortEscape? e = some c → Spelling ['\\', e] c
  | numbered {ds : List Char} {n : Nat} : Quad ds n → isLowSurrogate n = false →
      isHighSurrogate n = false → Spelling ('\\' :: 'u' :: ds) (Char.ofNat n)
  | pair {ds es : List Char} {high low : Nat} : Quad ds high → Quad es low →
      isHighSurrogate high = true → isLowSurrogate low = true →
      Spelling ('\\' :: 'u' :: (ds ++ '\\' :: 'u' :: es)) (pairChar high low)

/-- A string behind its opening quote, and the text that it stands for. -/
inductive Spells : List Char → List Char → Prop where
  | close : Spells ['"'] []
  | char {p cs s : List Char} {c : Char} : Spelling p c → Spells cs s → Spells (p ++ cs) (c :: s)

/-- A string, and the text that it stands for. -/
def IsText (cs : List Char) (s : String) : Prop := ∃ body, cs = '"' :: body ∧ Spells body s.toList

/-- A piece of a string of which nobody asks what it stands for: any four digits will do. -/
inductive Mark : List Char → Prop where
  | plain {c : Char} : c ≠ '"' → c ≠ '\\' → 0x20 ≤ c.toNat → Mark [c]
  | short {e c : Char} : shortEscape? e = some c → Mark ['\\', e]
  | numbered {ds : List Char} {n : Nat} : Quad ds n → Mark ('\\' :: 'u' :: ds)

/-- Such a string behind its opening quote. -/
inductive Marks : List Char → Prop where
  | close : Marks ['"']
  | mark {p cs : List Char} : Mark p → Marks cs → Marks (p ++ cs)

/-- A string that may stand for no text. -/
def IsString (cs : List Char) : Prop := ∃ body, cs = '"' :: body ∧ Marks body

/-- Some digits. -/
def Digits (cs : List Char) : Prop := cs ≠ [] ∧ ∀ c ∈ cs, c.isDigit = true

/-- The digits before the point: a zero stands alone. -/
inductive Whole : List Char → Prop where
  | zero : Whole ['0']
  | digits {c : Char} {cs : List Char} : c ≠ '0' → Digits (c :: cs) → Whole (c :: cs)

inductive Fraction : List Char → Prop where
  | none : Fraction []
  | point {ds : List Char} : Digits ds → Fraction ('.' :: ds)

inductive Exponent : List Char → Prop where
  | none : Exponent []
  | some {e : Char} {sign ds : List Char} : e = 'e' ∨ e = 'E' →
      sign = [] ∨ sign = ['+'] ∨ sign = ['-'] → Digits ds → Exponent (e :: (sign ++ ds))

inductive IsNumber : List Char → Prop where
  | mk {sign whole fraction exponent : List Char} : sign = [] ∨ sign = ['-'] → Whole whole →
      Fraction fraction → Exponent exponent → IsNumber (sign ++ (whole ++ (fraction ++ exponent)))

/-- Pieces with commas between them. -/
def joined : List (List Char) → List Char
  | [] => []
  | p :: ps => p ++ ps.flatMap (',' :: ·)

/-- What stands between two brackets: pieces, or blanks where there are none. -/
def inside (b : Blanks) : List (List Char) → List Char
  | [] => b.text
  | p :: ps => joined (p :: ps)

/-- The character that opens a bracket. -/
def Bracket.opening : Bracket → Char
  | list => '['
  | object => '\x7b'

/-- A pair of brackets and what stands between them. -/
def enclosed (br : Bracket) (b : Blanks) (ps : List (List Char)) : List Char :=
  br.opening :: (inside b ps ++ [br.close])

/-- An element of an array: a value and the blanks around it. -/
structure Element where
  before : Blanks
  value : List Char
  after : Blanks

def Element.text (e : Element) : List Char := e.before.text ++ (e.value ++ e.after.text)

/-- A member of an object: the same behind a key. -/
structure Entry extends Element where
  beforeKey : Blanks
  key : List Char
  afterKey : Blanks

def Entry.text (e : Entry) : List Char :=
  e.beforeKey.text ++ (e.key ++ (e.afterKey.text ++ ':' :: e.toElement.text))

/-- A value of any kind and nesting. -/
inductive IsValue : List Char → Prop where
  | null : IsValue ['n', 'u', 'l', 'l']
  | true : IsValue ['t', 'r', 'u', 'e']
  | false : IsValue ['f', 'a', 'l', 's', 'e']
  | string {cs : List Char} : IsString cs → IsValue cs
  | number {cs : List Char} : IsNumber cs → IsValue cs
  | array (b : Blanks) (es : List Element) : (∀ e ∈ es, IsValue e.value) →
      IsValue (enclosed .list b (es.map Element.text))
  | object (b : Blanks) (es : List Entry) : (∀ e ∈ es, IsString e.key) →
      (∀ e ∈ es, IsValue e.value) →
      IsValue (enclosed .object b (es.map Entry.text))

/-! ## Blanks -/

theorem skipBlanks_of_not_blank {c : Char} (hc : isBlank c = false) (rest : List Char) :
    skipBlanks (c :: rest) = c :: rest := by
  unfold skipBlanks
  rw [List.dropWhile_cons, hc]
  rfl

theorem skipBlanks_append (b : Blanks) (cs : List Char) :
    skipBlanks (b.text ++ cs) = skipBlanks cs :=
  List.dropWhile_append_of_pos b.blank

/-- The text starts with a character that is neither blank nor closes a bracket, as values do. -/
def Starts (cs : List Char) : Prop :=
  ∃ c rest, cs = c :: rest ∧ isBlank c = false ∧ ∀ br : Bracket, c ≠ br.close

theorem Starts.append {cs : List Char} (h : Starts cs) (rest : List Char) :
    Starts (cs ++ rest) := by
  obtain ⟨c, cs, rfl, hc, hb⟩ := h
  exact ⟨c, cs ++ rest, rfl, hc, hb⟩

theorem Starts.skipBlanks_eq {cs : List Char} (h : Starts cs) (b : Blanks) :
    skipBlanks (b.text ++ cs) = cs := by
  obtain ⟨c, cs, rfl, hc, -⟩ := h
  rw [skipBlanks_append, skipBlanks_of_not_blank hc]

theorem starts_quote (rest : List Char) : Starts ('"' :: rest) :=
  ⟨_, _, rfl, by decide, fun br => by cases br <;> decide⟩

theorem skipBlanks_blanks (b : Blanks) : skipBlanks b.text = [] := by
  rw [← List.append_nil b.text, skipBlanks_append]
  rfl

/-! ## Strings -/

variable {cs ds p s rest : List Char} {c : Char} {n : Nat}

theorem hexFour_quad (h : Quad ds n) (rest : List Char) : hexFour (ds ++ rest) = .ok (n, rest) := by
  cases h with
  | mk h₁ h₂ h₃ h₄ => simp only [List.cons_append, List.nil_append, hexFour, h₁, h₂, h₃, h₄]

theorem lowSurrogate_of_high (h : isHighSurrogate n = true) : isLowSurrogate n = false := by
  simp only [isHighSurrogate, Bool.and_eq_true, decide_eq_true_eq] at h
  simp only [isLowSurrogate, Bool.and_eq_false_iff, decide_eq_false_iff_not]
  omega

/-- An escape by number is one character, also if it takes a pair. -/
theorem escape_numbered (h : Spelling ('\\' :: 'u' :: ds) c) (rest : List Char) :
    escape ('u' :: (ds ++ rest)) = .ok (c, rest) := by
  have hu : shortEscape? 'u' = none := by decide
  simp only [escape, hu, if_true]
  unfold numberedEscape
  cases h with
  | short he =>
    rw [hu] at he
    cases he
  | numbered hd hl hh => simp only [hexFour_quad hd, hl, hh, Bool.false_eq_true, if_false]
  | pair hd he hh hl =>
    simp only [List.append_assoc, hexFour_quad hd, lowSurrogate_of_high hh, hh, Bool.false_eq_true,
      if_false, if_true, List.cons_append, secondHalf, and_self, hexFour_quad he, hl]

theorem keptString_quote (before rest : List Char) :
    keptString before ('"' :: rest) = .ok (before.reverse, rest) := by
  rw [keptString, if_pos rfl]

theorem keptString_plain {c : Char} (hq : c ≠ '"') (hb : c ≠ '\\') (hc : ¬ c.toNat < 0x20)
    (before rest : List Char) : keptString before (c :: rest) = keptString (c :: before) rest := by
  rw [keptString, if_neg hq, if_neg hb, if_neg hc]

theorem keptString_escape {d : Char} {cs rest : List Char} (h : escape cs = .ok (d, rest))
    (before : List Char) : keptString before ('\\' :: cs) = keptString (d :: before) rest := by
  rw [keptString, if_neg (by decide), if_pos rfl]
  split
  · rename_i he
    rw [h] at he
    cases he
  · rename_i he
    rw [h] at he
    cases he
    rfl

theorem keptString_escape_error {problem : Problem} (h : escape cs = .error problem)
    (before : List Char) : keptString before ('\\' :: cs) = .error problem := by
  rw [keptString, if_neg (by decide), if_pos rfl]
  split
  · rename_i he
    rw [h] at he
    cases he
    rfl
  · rename_i he
    rw [h] at he
    cases he

theorem escape_short {c d : Char} (h : shortEscape? c = some d) (rest : List Char) :
    escape (c :: rest) = .ok (d, rest) := by
  simp only [escape, h]

theorem keptString_spelling (h : Spelling p c) (before rest : List Char) :
    keptString before (p ++ rest) = keptString (c :: before) rest := by
  cases h with
  | plain hq hb hc => exact keptString_plain hq hb (Nat.not_lt.2 hc) before rest
  | short he => exact keptString_escape (escape_short he rest) before
  | numbered hd hl hh => exact keptString_escape (escape_numbered (.numbered hd hl hh) rest) before
  | pair hd he hh hl => exact keptString_escape (escape_numbered (.pair hd he hh hl) rest) before

theorem keptString_spells (h : Spells cs s) (before rest : List Char) :
    keptString before (cs ++ rest) = .ok (before.reverse ++ s, rest) := by
  induction h generalizing before with
  | close =>
    rw [List.append_nil]
    exact keptString_quote before rest
  | char hp _ ih =>
    rw [List.append_assoc, keptString_spelling hp, ih, List.reverse_cons, List.append_assoc,
      List.singleton_append]

theorem readString_spells {s : String} (h : Spells cs s.toList) (rest : List Char) :
    readString (cs ++ rest) = .ok (s, rest) := by
  unfold readString
  rw [keptString_spells h]
  simp

theorem readText_isText {s : String} (h : IsText cs s) (b : Blanks) (rest : List Char) :
    readText (b.text ++ (cs ++ rest)) = .ok (s, rest) := by
  obtain ⟨body, rfl, hs⟩ := h
  unfold readText
  rw [List.cons_append, (starts_quote _).skipBlanks_eq b]
  exact readString_spells hs rest

theorem skipString_escape {cs rest : List Char} (h : skipEscape cs = .ok rest) :
    skipString ('\\' :: cs) = skipString rest := by
  rw [skipString, if_neg (by decide), if_pos rfl]
  split
  · rename_i he
    rw [h] at he
    cases he
  · rename_i he
    rw [h] at he
    cases he
    rfl

theorem skipEscape_short {e c : Char} (h : shortEscape? e = some c) (rest : List Char) :
    skipEscape (e :: rest) = .ok rest := by
  simp only [skipEscape, h]

theorem skipEscape_quad (h : Quad ds n) (rest : List Char) :
    skipEscape ('u' :: (ds ++ rest)) = .ok rest := by
  have hu : shortEscape? 'u' = none := by decide
  simp only [skipEscape, hu, if_true, hexFour_quad h]

theorem skipString_mark (h : Mark p) (rest : List Char) :
    skipString (p ++ rest) = skipString rest := by
  cases h with
  | plain hq hb hc =>
    rw [List.singleton_append, skipString, if_neg hq, if_neg hb, if_neg (Nat.not_lt.2 hc)]
  | short he => exact skipString_escape (skipEscape_short he rest)
  | numbered hd => exact skipString_escape (skipEscape_quad hd rest)

theorem skipString_marks (h : Marks cs) (rest : List Char) :
    skipString (cs ++ rest) = .ok rest := by
  induction h with
  | close =>
    rw [List.singleton_append, skipString, if_pos rfl]
  | mark hp _ ih => rw [List.append_assoc, skipString_mark hp, ih]

/-! ## Numbers -/

/-- The value of a character that is a digit. -/
def digitOf (c : Char) : Nat := c.toNat - '0'.toNat

theorem digitValue?_eq_some {c : Char} (hc : c.isDigit = true) :
    digitValue? c = some (digitOf c) := if_pos hc

/-- The text goes on with something that cannot belong to a number. -/
def EndsNumber (rest : List Char) : Prop :=
  ∀ c ∈ rest.head?, digitValue? c = none ∧ c ≠ '.' ∧ c ≠ 'e' ∧ c ≠ 'E'

/-- The text goes on with something that is no digit. -/
def EndsDigits (rest : List Char) : Prop := ∀ c ∈ rest.head?, digitValue? c = none

theorem EndsNumber.endsDigits {rest : List Char} (hr : EndsNumber rest) : EndsDigits rest :=
  fun c hc => (hr c hc).1

theorem takeDigits_append {cs rest : List Char} (hc : ∀ c ∈ cs, c.isDigit = true)
    (hr : EndsDigits rest) : takeDigits (cs ++ rest) = (cs.map digitOf, rest) := by
  induction cs with
  | nil =>
    cases rest with
    | nil => rfl
    | cons c rest =>
      have hn := hr c rfl
      simp only [List.nil_append, takeDigits, hn, List.map_nil]
  | cons c cs ih =>
    have hd := digitValue?_eq_some (hc c List.mem_cons_self)
    have ih := ih fun d hd => hc d (List.mem_cons_of_mem c hd)
    simp only [List.cons_append, takeDigits, hd, ih, List.map_cons]

theorem fractionDigits_none (atEnd : Problem) {rest : List Char}
    (hr : ∀ c ∈ rest.head?, c ≠ '.') : fractionDigits atEnd rest = .ok (none, rest) := by
  cases rest with
  | nil => rfl
  | cons c rest => exact if_neg (hr c rfl)

theorem exponentDigits_none (atEnd : Problem) {rest : List Char} (hr : EndsNumber rest) :
    exponentDigits atEnd rest = .ok (none, rest) := by
  cases rest with
  | nil => rfl
  | cons c rest => exact if_neg fun h => h.elim (hr c rfl).2.2.1 (hr c rfl).2.2.2

theorem isBlank_of_isDigit {c : Char} (hc : c.isDigit = true) : isBlank c = false := by
  cases hb : isBlank c with
  | false => rfl
  | true =>
    simp only [isBlank, Bool.or_eq_true, beq_iff_eq] at hb
    rcases hb with ((rfl | rfl) | rfl) | rfl
    all_goals exact absurd hc (by decide)

theorem startsNumber_of_isDigit {c : Char} (hc : c.isDigit = true) : startsNumber c = true := by
  unfold startsNumber
  rw [digitValue?_eq_some hc]
  exact Bool.or_true _

theorem digits_digit (hc : c.isDigit = true) : Digits [c] :=
  ⟨List.cons_ne_nil _ _, List.forall_mem_singleton.2 hc⟩

theorem Digits.cons (hc : c.isDigit = true) (h : Digits ds) : Digits (c :: ds) :=
  ⟨List.cons_ne_nil _ _, List.forall_mem_cons.2 ⟨hc, h.2⟩⟩

theorem someDigits_append (atEnd : Problem) (h : Digits ds) (hr : EndsDigits rest) :
    someDigits atEnd (ds ++ rest) = .ok (ds.map digitOf, rest) := by
  obtain ⟨hn, hd⟩ := h
  unfold someDigits
  rw [takeDigits_append hd hr]
  cases ds with
  | nil => exact absurd rfl hn
  | cons d ds => rfl

theorem digitOf_ne_zero (hc : c.isDigit = true) (hz : c ≠ '0') : digitOf c ≠ 0 := by
  intro h
  refine hz (Char.toNat_inj.1 ?_)
  have hd : 48 ≤ c.toNat := by
    simp only [Char.isDigit, Bool.and_eq_true, decide_eq_true_eq] at hc
    exact hc.1
  have h0 : '0'.toNat = 48 := rfl
  unfold digitOf at h
  omega

theorem wholeDigits_append (atEnd : Problem) (h : Whole ds) (hr : EndsDigits rest) :
    wholeDigits atEnd (ds ++ rest) = .ok (ds.map digitOf, rest) := by
  unfold wholeDigits
  cases h with
  | zero =>
    rw [someDigits_append atEnd (digits_digit (by decide)) hr]
    rfl
  | @digits d ds hz hd =>
    have hn := digitOf_ne_zero (hd.2 d List.mem_cons_self) hz
    rw [someDigits_append atEnd hd hr, List.map_cons]
    dsimp only
    split
    · rename_i he
      rw [List.cons.injEq] at he
      exact absurd he.1 hn
    · rfl

theorem fractionDigits_append (atEnd : Problem) (h : Fraction ds) (hr : EndsDigits rest)
    (hp : ∀ c ∈ rest.head?, c ≠ '.') : ∃ v, fractionDigits atEnd (ds ++ rest) = .ok (v, rest) := by
  cases h with
  | none => exact ⟨_, fractionDigits_none atEnd hp⟩
  | @point ds hd =>
    refine ⟨some (ds.map digitOf), ?_⟩
    rw [List.cons_append, fractionDigits, if_pos rfl, someDigits_append atEnd hd hr]

/-- Digits do not start with a sign. -/
theorem exponentSign_digits (h : Digits ds) (rest : List Char) :
    exponentSign (ds ++ rest) = (false, ds ++ rest) := by
  obtain ⟨hn, hd⟩ := h
  cases ds with
  | nil => exact absurd rfl hn
  | cons c ds =>
    have hc := hd c List.mem_cons_self
    have h₁ : c ≠ '+' := by
      rintro rfl
      exact absurd hc (by decide)
    have h₂ : c ≠ '-' := by
      rintro rfl
      exact absurd hc (by decide)
    rw [List.cons_append, exponentSign, if_neg h₁, if_neg h₂]

theorem exponentDigits_append (atEnd : Problem) (h : Exponent ds) (hr : EndsNumber rest) :
    ∃ v, exponentDigits atEnd (ds ++ rest) = .ok (v, rest) := by
  cases h with
  | none => exact ⟨_, exponentDigits_none atEnd hr⟩
  | @some e sign ds he hs hd =>
    have ht : ∃ down, exponentSign (sign ++ (ds ++ rest)) = (down, ds ++ rest) := by
      rcases hs with rfl | rfl | rfl
      · exact ⟨_, exponentSign_digits hd rest⟩
      · exact ⟨_, rfl⟩
      · exact ⟨_, rfl⟩
    obtain ⟨down, ht⟩ := ht
    refine ⟨some (down, ds.map digitOf), ?_⟩
    rw [List.cons_append, List.append_assoc, exponentDigits, if_pos he, ht,
      someDigits_append atEnd hd hr.endsDigits]

/-- An exponent is taken neither for digits nor for a fraction. -/
theorem Exponent.head (h : Exponent ds) (hr : EndsNumber rest) :
    EndsDigits (ds ++ rest) ∧ ∀ c ∈ (ds ++ rest).head?, c ≠ '.' := by
  cases h with
  | none => exact ⟨hr.endsDigits, fun c hc => (hr c hc).2.1⟩
  | some he =>
    refine ⟨?_, ?_⟩
    all_goals
      rintro c ⟨⟩
      rcases he with rfl | rfl
      all_goals decide

theorem Fraction.endsDigits (h : Fraction ds) (hr : EndsDigits rest) : EndsDigits (ds ++ rest) := by
  cases h with
  | none => exact hr
  | point =>
    rintro c ⟨⟩
    decide

theorem Whole.head (h : Whole ds) : ∃ c cs, ds = c :: cs ∧ c.isDigit = true := by
  cases h with
  | zero => exact ⟨_, _, rfl, by decide⟩
  | digits _ hd => exact ⟨_, _, rfl, hd.2 _ List.mem_cons_self⟩

theorem IsNumber.head (h : IsNumber ds) :
    ∃ c cs, ds = c :: cs ∧ startsNumber c = true ∧ isBlank c = false := by
  obtain @⟨sign, _, _, _, hs, hw, -, -⟩ := h
  rcases hs with rfl | rfl
  · obtain ⟨c, cs, rfl, hc⟩ := hw.head
    exact ⟨_, _, rfl, startsNumber_of_isDigit hc, isBlank_of_isDigit hc⟩
  · exact ⟨_, _, rfl, by decide, by decide⟩

theorem readNumeral_number (atEnd : Problem) (h : IsNumber ds) (hr : EndsNumber rest) :
    ∃ v, readNumeral atEnd (ds ++ rest) = .ok (v, rest) := by
  obtain @⟨sign, whole, fraction, exponent, hs, hw, hf, hx⟩ := h
  have hu : ∀ negative, ∃ v, unsignedNumeral atEnd negative
      (whole ++ (fraction ++ (exponent ++ rest))) = .ok (v, rest) := by
    intro negative
    obtain ⟨hd, hp⟩ := hx.head hr
    have hw := wholeDigits_append atEnd hw (hf.endsDigits hd)
    obtain ⟨f, hf⟩ := fractionDigits_append atEnd hf hd hp
    obtain ⟨x, hx⟩ := exponentDigits_append atEnd hx hr
    exact ⟨⟨negative, whole.map digitOf, f, x⟩, by simp only [unsignedNumeral, hw, hf, hx]⟩
  simp only [List.append_assoc]
  rcases hs with rfl | rfl
  · obtain ⟨c, cs, rfl, hc⟩ := hw.head
    have hm : c ≠ '-' := by
      rintro rfl
      exact absurd hc (by decide)
    obtain ⟨v, hv⟩ := hu false
    refine ⟨v, ?_⟩
    rw [List.nil_append, List.cons_append, readNumeral, if_neg hm]
    exact hv
  · obtain ⟨v, hv⟩ := hu true
    refine ⟨v, ?_⟩
    rw [List.singleton_append, readNumeral, if_pos rfl]
    exact hv

/-! ## What values start with, and what they end before -/

theorem IsString.starts (h : IsString cs) : Starts cs := by
  obtain ⟨body, rfl, -⟩ := h
  exact starts_quote body

theorem startsNumber_of_close (br : Bracket) : startsNumber br.close = false := by
  cases br <;> decide

theorem IsNumber.starts (h : IsNumber cs) : Starts cs := by
  obtain ⟨c, cs, rfl, hc, hb⟩ := h.head
  refine ⟨c, cs, rfl, hb, ?_⟩
  rintro br rfl
  rw [startsNumber_of_close] at hc
  cases hc

theorem IsValue.starts (h : IsValue cs) : Starts cs := by
  cases h with
  | string hs => exact hs.starts
  | number hn => exact hn.starts
  | _ => exact ⟨_, _, rfl, by decide, fun br => by cases br <;> decide⟩

/-- What the brackets that a value may stand in are followed by. -/
theorem endsNumber_blanks (b : Blanks) (hr : EndsNumber rest) : EndsNumber (b.text ++ rest) := by
  obtain ⟨cs, hb⟩ := b
  cases cs with
  | nil => exact hr
  | cons c cs =>
    rintro d ⟨⟩
    have hc := hb c List.mem_cons_self
    simp only [isBlank, Bool.or_eq_true, beq_iff_eq] at hc
    rcases hc with ((rfl | rfl) | rfl) | rfl
    all_goals decide

theorem endsNumber_of_blanks (b : Blanks) : EndsNumber b.text := by
  rw [← List.append_nil b.text]
  exact endsNumber_blanks b fun c hc => nomatch hc

theorem endsNumber_close (br : Bracket) (rest : List Char) : EndsNumber (br.close :: rest) := by
  rintro c ⟨⟩
  cases br <;> decide

theorem endsNumber_pieces (ps : List (List Char)) (hr : EndsNumber rest) :
    EndsNumber (ps.flatMap (',' :: ·) ++ rest) := by
  cases ps with
  | nil => exact hr
  | cons p ps =>
    rintro c ⟨⟩
    decide

end HandleBridge.Json
