import HandleBridge.Proofs.Config.Spelling
import Mathlib.Data.Nat.Digits.Defs

/-
  The two numbers of a configuration.

  A text with a gap says all of a configuration but the value of one field (`Schema.Gap`). What may
  stand in the gap is what the kind of the field takes, and the rest is read as it would be without
  the field. A number there is taken exactly if it is written with digits alone and fits a word of
  64 bits, and then it is stored as it is, however many digits it has; any other number is refused.

  Proved:
  * `Schema.Gap.means`, `Schema.Gap.exists_of_means`: what may stand in a gap, and what it makes of
    the record.
  * `Token.isWord_iff`: which numbers are words, and of which value.
  * `numbers_exact`: numbers and `null` in the gap, for both fields.
-/

namespace HandleBridge

open Json

namespace Json

/-! ## Gaps -/

namespace Schema

variable {S : Type} {sch : Schema S} {items items' : sch.Items} {k : sch.Key} {es es' : List Entry}
  {text : List Char → List Char} {v : List Char}

/-- A text of a record with a gap in the place of the value of the field `k`. The rest of it is
right, and says the items. -/
inductive Gap (sch : Schema S) (k : sch.Key) : sch.Items → (List Char → List Char) → Prop where
  | member {b : Blanks} {es es' : List Entry} {e : Entry} {items : sch.Items} :
      IsText e.key (sch.name k) → sch.Entries (es ++ es') items → items.NodupKeys →
      k ∉ items.keys →
      Gap sch k items fun v =>
        enclosed .object b ((es ++ { e with value := v } :: es').map Entry.text)
  | element {b : Blanks} {es es' : List Element} {e : Element} {items items' : sch.Items} :
      sch.Elements es items → sch.Elements es' items' →
      items.keys ++ k :: items'.keys <+: sch.keys →
      Gap sch k (items ++ items') fun v =>
        enclosed .list b ((es ++ { e with value := v } :: es').map Element.text)

theorem Entries.append (h : sch.Entries es items) (h' : sch.Entries es' items') :
    sch.Entries (es ++ es') (items ++ items') := by
  induction h with
  | nil => exact h'
  | known hk _ ih => exact .known hk ih
  | other ho _ ih => exact .other ho ih

theorem Entries.exists_split (h : sch.Entries (es ++ es') items) :
    ∃ items₁ items₂, items = items₁ ++ items₂ ∧ sch.Entries es items₁ ∧
      sch.Entries es' items₂ := by
  induction es generalizing items with
  | nil => exact ⟨[], items, rfl, .nil, h⟩
  | cons e es ih =>
    cases h with
    | @known _ i _ items hk h =>
      obtain ⟨items₁, items₂, rfl, h₁, h₂⟩ := ih h
      exact ⟨i :: items₁, items₂, rfl, .known hk h₁, h₂⟩
    | other ho h =>
      obtain ⟨items₁, items₂, rfl, h₁, h₂⟩ := ih h
      exact ⟨items₁, items₂, rfl, .other ho h₁, h₂⟩

theorem keys_append (items items' : sch.Items) :
    (items ++ items').keys = items.keys ++ items'.keys := List.map_append

theorem Gap.not_mem_keys (h : sch.Gap k items text) : k ∉ items.keys := by
  cases h with
  | member _ _ _ hk => exact hk
  | @element _ _ _ _ items items' _ _ hp =>
    have hn := sch.nodup_keys.sublist hp.sublist
    rw [List.nodup_append] at hn
    obtain ⟨-, hn, hd⟩ := hn
    rw [keys_append, List.mem_append]
    rintro (hm | hm)
    · exact hd k hm k List.mem_cons_self rfl
    · exact (List.nodup_cons.1 hn).1 hm

theorem get_override_cons_self (sch : Schema S) {k : sch.Key} (s : S) (x : sch.Value k)
    (items : sch.Items) : sch.get (sch.override s (⟨k, x⟩ :: items)) k = x := by
  unfold override
  rw [sch.get_build, List.dlookup_cons_eq]
  rfl

theorem get_override_cons_ne (sch : Schema S) {k k' : sch.Key} (hk : k' ≠ k) (s : S)
    (x : sch.Value k) (items : sch.Items) :
    sch.get (sch.override s (⟨k, x⟩ :: items)) k' = sch.get (sch.override s items) k' := by
  unfold override
  rw [sch.get_build, sch.get_build, List.dlookup_cons_ne _ _ hk]

/-- Records with the same fields are the same. -/
theorem eq_of_get (sch : Schema S) {s s' : S} (h : ∀ k, sch.get s k = sch.get s' k) : s = s' := by
  rw [← sch.build_get s, ← sch.build_get s', funext h]

/-- What the field takes may stand in the gap. -/
theorem Gap.means (h : sch.Gap k items text) {x : sch.Value k} (hv : (sch.kind k).Means v x)
    (defaults : S) :
    (sch.record defaults).Means (text v) (sch.override defaults (⟨k, x⟩ :: items)) := by
  have hk := h.not_mem_keys
  cases h with
  | @member b es es' e items hs he hn _ =>
    obtain ⟨items₁, items₂, rfl, h₁, h₂⟩ := he.exists_split
    have hn' : List.NodupKeys (⟨k, x⟩ :: (items₁ ++ items₂)) := List.nodupKeys_cons.2 ⟨hk, hn⟩
    have hp : (⟨k, x⟩ :: (items₁ ++ items₂)).Perm (items₁ ++ ⟨k, x⟩ :: items₂) :=
      List.perm_middle.symm
    refine ⟨_, override_perm hn' hp, .inl ⟨⟨b, _, rfl, ?_⟩, (List.perm_nodupKeys hp).1 hn'⟩⟩
    exact h₁.append (.known ⟨hs, hv⟩ h₂)
  | @element b es es' e items items' h₁ h₂ hp =>
    have hkeys : (items ++ ⟨k, x⟩ :: items').keys <+: sch.keys := by
      rw [keys_append]
      exact hp
    have hn := nodupKeys_of_prefix hkeys
    refine ⟨items ++ ⟨k, x⟩ :: items', ?_, .inr ⟨⟨b, _, rfl, ?_⟩, hkeys⟩⟩
    · exact (override_perm hn List.perm_middle).symm
    · exact List.rel_append h₁ (.cons hv h₂)

/-- Elements are as many as their items. -/
theorem Elements.length_eq {es : List Element} (h : sch.Elements es items) :
    items.keys.length = es.length := by
  unfold Elements at h
  rw [List.keys, List.length_map, h.length_eq]

theorem loose_gap (hval : sch.Valued) (h : sch.Entries (es ++ es') items) {e : Entry}
    (hs : IsText e.key (sch.name k)) (hv : IsValue v) :
    Loose (es ++ { e with value := v } :: es') := by
  have hl := List.forall_mem_append.1 (loose_of_entries hval h)
  exact List.forall_mem_append.2 ⟨hl.1, List.forall_mem_cons.2 ⟨⟨hs.isString, hv⟩, hl.2⟩⟩

theorem values_gap (hval : sch.Valued) {es es' : List Element} (h : sch.Elements es items)
    (h' : sch.Elements es' items') {e : Element} (hv : IsValue v) :
    ∀ x ∈ es ++ { e with value := v } :: es', IsValue x.value :=
  List.forall_mem_append.2 ⟨values_of_elements hval h,
    List.forall_mem_cons.2 ⟨hv, values_of_elements hval h'⟩⟩

/-- With a value in the gap the text is a value. -/
theorem Gap.isValue (hval : sch.Valued) (h : sch.Gap k items text) (hv : IsValue v) :
    IsValue (text v) := by
  cases h with
  | member hs he _ _ =>
    have hl := loose_gap hval he hs hv
    exact .object _ _ (fun e he => (hl e he).1) fun e he => (hl e he).2
  | element h₁ h₂ _ => exact .array _ _ (values_gap hval h₁ h₂ hv)

/-- And nothing else may: a value that stands in the gap of a right text is the field's. -/
theorem Gap.exists_of_means (hval : sch.Valued) (h : sch.Gap k items text) (hv : IsValue v)
    {defaults a : S} (hm : (sch.record defaults).Means (text v) a) :
    ∃ x, (sch.kind k).Means v x := by
  cases h with
  | @member b es es' e items hs he _ _ =>
    have hk := byKey_of_means hval (loose_gap hval he hs hv) hm k
    exact ⟨_, hk.1 { e with value := v } (List.mem_append_right _ List.mem_cons_self) hs⟩
  | @element b es es' e items₁ items₂ h₁ h₂ hp =>
    obtain ⟨items, -, ⟨⟨b', es'', hb, -⟩, -⟩ | ha⟩ := hm
    · exact absurd (List.cons.inj hb).1 (by decide)
    have he := ha.elements hval (values_gap hval h₁ h₂ hv)
    -- the elements have the first places, so the one in the gap has that of its key
    have hkeys : items.keys = items₁.keys ++ k :: items₂.keys := by
      refine (List.prefix_of_prefix_length_le ha.2 hp ?_).eq_of_length ?_
      all_goals
        rw [he.length_eq, List.length_append, List.length_append, List.length_cons,
          List.length_cons, h₁.length_eq, h₂.length_eq]
    obtain ⟨first, rest, rfl, hf, hr⟩ := List.map_eq_append_iff.1 hkeys
    obtain ⟨⟨k', x⟩, rest, rfl, rfl, -⟩ := List.map_eq_cons_iff.1 hr
    have hlen : first.length = es.length := by
      rw [← h₁.length_eq, ← hf, List.length_map]
    have hd := List.forall₂_drop_append _ _ _ he
    rw [hlen, List.drop_left] at hd
    cases hd with
    | cons hx _ => exact ⟨x, hx⟩

end Schema

/-! ## Words among the numbers -/

/-- The value of a text of decimal digits. -/
def decimalValue (cs : List Char) : Nat := Nat.ofDigits 10 (cs.reverse.map digitOf)

theorem value_eq_decimalValue (cs : List Char) :
    Numeral.value (cs.map digitOf) = decimalValue cs := by
  unfold Numeral.value decimalValue
  rw [Nat.ofDigits_eq_foldr, List.map_reverse, List.foldr_reverse]
  congr 1
  funext n d
  rw [Nat.mul_comm, Nat.add_comm]
  rfl

/-- A number in its parts. -/
structure Token where
  sign : List Char
  whole : List Char
  fraction : List Char
  exponent : List Char
  sign_eq : sign = [] ∨ sign = ['-']
  isWhole : Whole whole
  isFraction : Fraction fraction
  isExponent : Exponent exponent

namespace Token

def text (t : Token) : List Char := t.sign ++ (t.whole ++ (t.fraction ++ t.exponent))

theorem isNumber (t : Token) : IsNumber t.text :=
  .mk t.sign_eq t.isWhole t.isFraction t.isExponent

/-- All numbers have such parts. -/
theorem isNumber_iff {v : List Char} : IsNumber v ↔ ∃ t : Token, t.text = v := by
  constructor
  · rintro ⟨hs, hw, hf, hx⟩
    exact ⟨⟨_, _, _, _, hs, hw, hf, hx⟩, rfl⟩
  · rintro ⟨t, rfl⟩
    exact t.isNumber

/-- The number is written with digits alone. -/
def Plain (t : Token) : Prop := t.sign = [] ∧ t.fraction = [] ∧ t.exponent = []

instance (t : Token) : Decidable t.Plain := inferInstanceAs (Decidable (_ ∧ _))

/-- The number is written with digits alone, and fits a word of 64 bits. -/
def FitsWord (t : Token) : Prop := t.Plain ∧ decimalValue t.whole ≤ 18446744073709551615

instance (t : Token) : Decidable t.FitsWord := inferInstanceAs (Decidable (_ ∧ _))

variable {t : Token} {n : Nat}

theorem Plain.text_eq (h : t.Plain) : t.text = t.whole := by
  obtain ⟨hs, hf, hx⟩ := h
  rw [text, hs, hf, hx, List.nil_append, List.append_nil, List.append_nil]

/-- Signs, points and the letters of exponents are no digits. -/
theorem plain_of_digits (h : ∀ c ∈ t.text, c.isDigit = true) : t.Plain := by
  obtain ⟨sign, whole, fraction, exponent, hs, _, hf, hx⟩ := t
  simp only [text, List.forall_mem_append] at h
  obtain ⟨hsign, -, hfraction, hexponent⟩ := h
  refine ⟨hs.resolve_right ?_, ?_, ?_⟩
  · rintro rfl
    exact absurd (hsign '-' List.mem_cons_self) (by decide)
  · cases hf with
    | none => rfl
    | point _ => exact absurd (hfraction '.' List.mem_cons_self) (by decide)
  · cases hx with
    | none => rfl
    | @some e _ _ hletter =>
      have hd := hexponent e List.mem_cons_self
      rcases hletter with rfl | rfl
      all_goals exact absurd hd (by decide)

theorem isWord_iff : IsWord t.text n ↔ t.FitsWord ∧ n = decimalValue t.whole := by
  constructor
  · rintro ⟨he, hn⟩
    have hp : t.Plain := by
      refine plain_of_digits ?_
      rw [he]
      exact fun c hc => isDigit_of_mem_toDigits hc
    have hv : n = decimalValue t.whole := by
      rw [← value_eq_decimalValue, ← hp.text_eq, he, value_toDigits]
    exact ⟨⟨hp, hv ▸ hn⟩, hv⟩
  · rintro ⟨⟨hp, hn⟩, rfl⟩
    refine ⟨?_, hn⟩
    rw [hp.text_eq, ← value_eq_decimalValue]
    exact t.isWhole.eq_toDigits

/-- A number as it is usually written. -/
def ofNat (n : Nat) : Token where
  sign := []
  whole := Nat.toDigits 10 n
  fraction := []
  exponent := []
  sign_eq := .inl rfl
  isWhole := whole_toDigits n
  isFraction := .none
  isExponent := .none

theorem fitsWord_ofNat : (ofNat n).FitsWord ↔ n ≤ 18446744073709551615 := by
  have hv : decimalValue (ofNat n).whole = n :=
    (value_eq_decimalValue _).symm.trans (value_toDigits n)
  rw [FitsWord, hv]
  exact and_iff_right ⟨rfl, rfl, rfl⟩

theorem text_ne_null (t : Token) : t.text ≠ ['n', 'u', 'l', 'l'] := by
  intro h
  obtain ⟨c, cs, he, hc, -⟩ := t.isNumber.head
  rw [h] at he
  cases he
  exact absurd hc (by decide)

end Token

end Json

namespace Config

/-! ## The two fields -/

/-- A field that is a number. -/
inductive NumberKey where
  | maxMemoryBytes
  | fuel

namespace NumberKey

def key : NumberKey → Key
  | maxMemoryBytes => .maxMemoryBytes
  | fuel => .fuel

/-- A number as a value of the field. -/
def value : (k : NumberKey) → Nat → k.key.Value
  | maxMemoryBytes, n => n
  | fuel, n => some n

/-- The configuration with another number. -/
def put : NumberKey → Nat → Config → Config
  | maxMemoryBytes, n, c => { c with maxMemoryBytes := n }
  | fuel, n, c => { c with fuel := some n }

end NumberKey

variable {k : NumberKey} {items : schema.Items} {text : List Char → List Char} {v : List Char}
  {before after : Blanks} {t : Token} {c : Config}

theorem override_number (items : schema.Items) (n : Nat) :
    schema.override default (⟨k.key, k.value n⟩ :: items) =
      k.put n (schema.override default items) := by
  have hself := schema.get_override_cons_self default (k.value n) items
  have hne {key : Key} (h : key ≠ k.key) :=
    schema.get_override_cons_ne h default (k.value n) items
  refine schema.eq_of_get fun key => ?_
  cases k
  all_goals
    cases key
    all_goals first | exact hself | exact hne (by decide)

theorem override_null (items : schema.Items) :
    schema.override default (⟨Key.fuel, none⟩ :: items) =
      { schema.override default items with fuel := none } := by
  have hself := schema.get_override_cons_self (k := Key.fuel) default none items
  have hne {key : Key} (h : key ≠ Key.fuel) :=
    schema.get_override_cons_ne (k := Key.fuel) h default none items
  refine schema.eq_of_get fun key => ?_
  cases key
  all_goals first | exact hself | exact hne (by decide)

theorem means_number (k : NumberKey) (h : t.FitsWord) :
    (schema.kind k.key).Means t.text (k.value (decimalValue t.whole)) := by
  have hw : IsWord t.text (decimalValue t.whole) := Token.isWord_iff.2 ⟨h, rfl⟩
  cases k with
  | maxMemoryBytes => exact hw
  | fuel => exact .inr ⟨_, rfl, hw⟩

theorem fitsWord_of_means {x : k.key.Value} (hx : (schema.kind k.key).Means t.text x) :
    t.FitsWord := by
  cases k with
  | maxMemoryBytes => exact (Token.isWord_iff.1 hx).1
  | fuel =>
    obtain ⟨-, hnull⟩ | ⟨n, -, hn⟩ := hx
    · exact absurd hnull t.text_ne_null
    · exact (Token.isWord_iff.1 hn).1

theorem not_word_null (n : Nat) : ¬ IsWord ['n', 'u', 'l', 'l'] n := by
  intro h
  obtain ⟨c, cs, he, hc⟩ := toDigits_eq_cons n
  rw [← h.1] at he
  cases he
  exact absurd hc (by decide)

theorem exists_error (h : ∀ c, parse (spaced before v after) ≠ .ok c) :
    ∃ problem, parse (spaced before v after) = .error problem := by
  cases hp : parse (spaced before v after) with
  | error problem => exact ⟨problem, rfl⟩
  | ok c => exact absurd hp (h c)

/-- A value in the gap that the field does not take is refused. -/
theorem parse_refused {key : Key} (h : schema.Gap key items text) (hv : IsValue v)
    (hno : ∀ x, ¬ (schema.kind key).Means v x) (before after : Blanks) :
    ∃ problem, parse (spaced before (text v) after) = .error problem := by
  refine exists_error fun c hp => ?_
  obtain ⟨x, hx⟩ := h.exists_of_means valued hv (means_of_parse (h.isValue valued hv) hp)
  exact hno x hx

theorem parse_number (h : schema.Gap k.key items text) (ht : t.FitsWord) (before after : Blanks) :
    parse (spaced before (text t.text) after) =
      .ok (k.put (decimalValue t.whole) (schema.override default items)) := by
  rw [← override_number]
  exact parse_of_means (h.means (means_number k ht) default) before after

theorem parse_number_refused (h : schema.Gap k.key items text) (ht : ¬ t.FitsWord)
    (before after : Blanks) :
    ∃ problem, parse (spaced before (text t.text) after) = .error problem :=
  parse_refused h (.number t.isNumber) (fun _ hx => ht (fitsWord_of_means hx)) before after

theorem parse_null (h : schema.Gap Key.fuel items text) (before after : Blanks) :
    parse (spaced before (text ['n', 'u', 'l', 'l']) after) =
      .ok { schema.override default items with fuel := none } := by
  rw [← override_null]
  exact parse_of_means (h.means (.inl ⟨rfl, rfl⟩) default) before after

theorem parse_null_refused (h : schema.Gap Key.maxMemoryBytes items text) (before after : Blanks) :
    ∃ problem, parse (spaced before (text ['n', 'u', 'l', 'l']) after) = .error problem :=
  parse_refused h .null not_word_null before after

/-- A number in the place of the value of a number field is accepted exactly if it is written with
digits alone and fits a word, and its value is stored as it is. The fuel may be null instead. -/
theorem numbers_exact :
    (∀ v, IsNumber v ↔ ∃ t : Token, t.text = v) ∧
      (∀ (k : NumberKey) items text, schema.Gap k.key items text → ∀ (t : Token) before after,
        (t.FitsWord → parse (spaced before (text t.text) after) =
          .ok (k.put (decimalValue t.whole) (schema.override default items))) ∧
        (¬ t.FitsWord → ∃ problem, parse (spaced before (text t.text) after) = .error problem)) ∧
      (∀ items text, schema.Gap Key.fuel items text → ∀ before after,
        parse (spaced before (text ['n', 'u', 'l', 'l']) after) =
          .ok { schema.override default items with fuel := none }) ∧
      ∀ items text, schema.Gap Key.maxMemoryBytes items text → ∀ before after,
        ∃ problem, parse (spaced before (text ['n', 'u', 'l', 'l']) after) = .error problem :=
  ⟨fun _ => Token.isNumber_iff,
    fun _ _ _ h _ before after =>
      ⟨fun ht => parse_number h ht before after, fun ht => parse_number_refused h ht before after⟩,
    fun _ _ h => parse_null h, fun _ _ h => parse_null_refused h⟩

/-! ## Around the largest word -/

/-- A limit of five bytes, and a fuel to be filled in. -/
def fuelGap (v : List Char) : List Char :=
  enclosed .object noBlanks
    ([Entry.written "max_memory_bytes" ['5'], Entry.written "fuel" v].map Entry.text)

theorem gap_fuel : schema.Gap Key.fuel [⟨Key.maxMemoryBytes, (5 : Nat)⟩] fuelGap := by
  have he : schema.Entries ([Entry.written "max_memory_bytes" ['5']] ++ [])
      [⟨Key.maxMemoryBytes, (5 : Nat)⟩] :=
    .known ⟨isText_written "max_memory_bytes", rfl, by decide⟩ .nil
  exact .member (e := Entry.written "fuel" []) (isText_written (schema.name Key.fuel)) he
    (List.nodupKeys_singleton _) (mt List.mem_singleton.1 Key.noConfusion)

/-- Names of its own, and a limit to be filled in. -/
def memoryGap (v : List Char) : List Char :=
  enclosed .list noBlanks ([⟨noBlanks, oneName, noBlanks⟩, ⟨space, v, noBlanks⟩].map Element.text)

theorem gap_memory : schema.Gap Key.maxMemoryBytes [⟨Key.exports, names⟩] memoryGap := by
  have he : schema.Elements [⟨noBlanks, oneName, noBlanks⟩] [⟨Key.exports, names⟩] :=
    .cons means_oneName .nil
  exact .element (e := ⟨space, [], noBlanks⟩) he .nil (by decide)

def minusZero : Token :=
  ⟨['-'], ['0'], [], [], .inr rfl, .zero, .none, .none⟩

def onePointZero : Token :=
  ⟨[], ['1'], ['.', '0'], [], .inl rfl, .digits (by decide) (digits_digit (by decide)),
    .point (digits_digit (by decide)), .none⟩

def oneThousand : Token :=
  ⟨[], ['1'], [], ['e', '3'], .inl rfl, .digits (by decide) (digits_digit (by decide)), .none,
    .some (.inl rfl) (.inl rfl) (digits_digit (by decide))⟩

theorem numbers_exact_at_largest :
    parse "\x7b\"max_memory_bytes\":5,\"fuel\":18446744073709551615\x7d" =
        .ok { maxMemoryBytes := 5, fuel := some 18446744073709551615 } ∧
      (∃ problem, parse "\x7b\"max_memory_bytes\":5,\"fuel\":18446744073709551616\x7d" =
        .error problem) ∧
      (∃ problem, parse "[[\"m\"], -0]" = .error problem) ∧
      (∃ problem, parse "[[\"m\"], 1.0]" = .error problem) ∧
      (∃ problem, parse "[[\"m\"], 1e3]" = .error problem) ∧
      parse "\x7b\"max_memory_bytes\":5,\"fuel\":null\x7d" = .ok { maxMemoryBytes := 5 } ∧
      ∃ problem, parse "[[\"m\"], null]" = .error problem := by
  obtain ⟨-, hnumber, hnull, hrefused⟩ := numbers_exact
  have hfuel (t : Token) := hnumber .fuel _ _ gap_fuel t noBlanks noBlanks
  have hmemory (t : Token) := hnumber .maxMemoryBytes _ _ gap_memory t noBlanks noBlanks
  refine ⟨?_, ?_, ?_, ?_, ?_, ?_, ?_⟩
  · refine Eq.trans (congrArg parse ?_)
      (((hfuel (.ofNat 18446744073709551615)).1 (Token.fitsWord_ofNat.2 (by decide))).trans ?_)
    · decide +kernel
    · decide +kernel
  · obtain ⟨problem, hp⟩ :=
      (hfuel (.ofNat 18446744073709551616)).2 (mt Token.fitsWord_ofNat.1 (by decide))
    refine ⟨problem, Eq.trans (congrArg parse ?_) hp⟩
    decide +kernel
  · obtain ⟨problem, hp⟩ := (hmemory minusZero).2 (by decide)
    refine ⟨problem, Eq.trans (congrArg parse ?_) hp⟩
    decide +kernel
  · obtain ⟨problem, hp⟩ := (hmemory onePointZero).2 (by decide)
    refine ⟨problem, Eq.trans (congrArg parse ?_) hp⟩
    decide +kernel
  · obtain ⟨problem, hp⟩ := (hmemory oneThousand).2 (by decide)
    refine ⟨problem, Eq.trans (congrArg parse ?_) hp⟩
    decide +kernel
  · refine Eq.trans (congrArg parse ?_) (hnull _ _ gap_fuel noBlanks noBlanks)
    decide +kernel
  · obtain ⟨problem, hp⟩ := hrefused _ _ gap_memory noBlanks noBlanks
    refine ⟨problem, Eq.trans (congrArg parse ?_) hp⟩
    decide +kernel

end Config

end HandleBridge
