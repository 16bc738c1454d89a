import HandleBridge.Proofs.Json.Nesting

/-
  Records are read from nothing but their texts.

  The other direction of the schemas: where a reader of a record succeeds, what it took is a text
  that the schema gives that meaning. Members and elements are found one by one, as the reader
  takes them, and each gives its item; keys that came before do not come again.

  Such a text is also a value, and a reader that nobody asked for it would have crossed as much.

  Proved:
  * `exists_entries_of_readMembers`, `exists_elements_of_readElements`: the pieces of a record.
  * `readRecord_exact`, `recordReader_exact`: a record as a whole.
-/

namespace HandleBridge.Json

/-! ## Single values -/

/-- What the reader takes is a text of the kind, and is crossed as a value. -/
def Reader.Exact {α : Type} (r : Reader α) (kind : Kind α) : Prop :=
  ∀ {cs rest : List Char} {a : α}, r.run cs = .ok (a, rest) →
    (∃ (b : Blanks) (v : List Char), cs = b.text ++ (v ++ rest) ∧ kind.Means v a) ∧
      skipValue cs = .ok rest

/-- The texts of the kind are values. -/
def Kind.Valued {α : Type} (kind : Kind α) : Prop := ∀ {cs a}, kind.Means cs a → IsValue cs

theorem IsWord.isNumber {cs : List Char} {n : Nat} (h : IsWord cs n) : IsNumber cs := by
  have hn := IsNumber.mk (.inl rfl) (whole_toDigits n) .none .none
  rw [List.nil_append, List.append_nil, List.append_nil, ← h.1] at hn
  exact hn

theorem text_valued : Kind.text.Valued := fun h => .string h.isString

theorem word_valued : Kind.word.Valued := fun h => .number (IsWord.isNumber h)

theorem wordOrNull_valued : Kind.wordOrNull.Valued := by
  rintro cs v (⟨-, rfl⟩ | ⟨n, -, hn⟩)
  · exact .null
  · exact .number hn.isNumber

theorem skipValue_string {cs : List Char} (h : IsString cs) (b : Blanks) (rest : List Char) :
    skipValue (b.text ++ (cs ++ rest)) = .ok rest := by
  obtain ⟨body, rfl, hm⟩ := h
  unfold skipValue
  rw [List.cons_append, skipFrom_scalar (starts_quote _) (by decide) (by decide)
    (skipString_marks hm rest) b, skipFrom]

theorem textReader_exact : textReader.Exact Kind.text := by
  intro cs rest s h
  obtain ⟨b, v, rfl, hv⟩ := exists_isText_of_readText h
  exact ⟨⟨b, v, rfl, hv⟩, skipValue_string hv.isString b rest⟩

theorem wordReader_exact (expected : String) : (wordReader expected).Exact Kind.word := by
  intro cs rest n h
  obtain ⟨b, v, rfl, hv, hr⟩ := exists_isWord_of_readWord h
  exact ⟨⟨b, v, rfl, hv⟩, skipValue_value (word_valued hv) b hr⟩

theorem wordOrNullReader_exact (expected : String) :
    (wordOrNullReader expected).Exact Kind.wordOrNull := by
  intro cs rest v h
  obtain ⟨b, t, rfl, ht, hr⟩ := exists_of_readWordOrNull h
  refine ⟨⟨b, t, rfl, ht⟩, ?_⟩
  rcases ht with ⟨rfl, rfl⟩ | ⟨n, rfl, hn⟩
  · have hs : skipFrom .value [] (b.text ++ (['n', 'u', 'l', 'l'] ++ rest)) = _ :=
      skipFrom_scalar (IsValue.null.starts.append rest) (by decide) (by decide) rfl b
    rw [skipValue, hs, skipFrom]
    rfl
  · exact skipValue_value (word_valued hn) b (hr (Option.some_ne_none n))

/-! ## Pieces -/

/-- The pieces up to a close: all that there is between the brackets, or what follows a piece. -/
def upTo (first : Bool) (b : Blanks) (ps : List (List Char)) : List Char :=
  if first then inside b ps else b.text ++ ps.flatMap (',' :: ·)

/-- What stands before a piece: nothing before the first one. -/
def comma (first : Bool) (b : Blanks) : List Char := if first then [] else b.text ++ [',']

variable {cs rest : List Char} {first : Bool}

theorem upTo_nil (first : Bool) (b : Blanks) : upTo first b [] = b.text := by
  cases first with
  | true => rfl
  | false => exact List.append_nil _

theorem upTo_cons (first : Bool) (b : Blanks) (p : List Char) (ps : List (List Char)) :
    upTo first b (p :: ps) = comma first b ++ (p ++ ps.flatMap (',' :: ·)) := by
  cases first with
  | true => rfl
  | false => exact (List.append_assoc b.text [','] _).symm

theorem eq_of_nextKey_false (h : nextKey first cs = .ok (false, rest)) :
    ∃ b : Blanks, cs = b.text ++ '\x7d' :: rest := by
  obtain ⟨b, hb⟩ := exists_blanks cs
  unfold nextKey at h
  split at h
  · cases h
  rename_i c r hc
  rw [hc] at hb
  split at h
  · rename_i hclose
    cases h
    exact ⟨b, hclose ▸ hb⟩
  · split at h
    · split at h <;> cases h
    · split at h
      · split at h
        · cases h
        · split at h <;> cases h
      · cases h

theorem eq_of_nextKey_true (h : nextKey first cs = .ok (true, rest)) :
    ∃ b b' : Blanks, cs = comma first b ++ (b'.text ++ '"' :: rest) := by
  obtain ⟨b, hb⟩ := exists_blanks cs
  unfold nextKey at h
  split at h
  · cases h
  rename_i c r hc
  rw [hc] at hb
  split at h
  · cases h
  split at h
  · rename_i hfirst
    subst hfirst
    split at h
    · rename_i hq
      cases h
      exact ⟨b, b, hq ▸ hb⟩
    · cases h
  · rename_i hfirst
    rw [Bool.not_eq_true] at hfirst
    subst hfirst
    split at h
    · rename_i hcomma
      obtain ⟨b', hb'⟩ := exists_blanks r
      split at h
      · cases h
      rename_i d r' hd
      rw [hd] at hb'
      split at h
      · rename_i hq
        cases h
        refine ⟨b, b', ?_⟩
        rw [hb, hcomma, hb', hq]
        simp [comma]
      · cases h
    · cases h

theorem eq_of_expectColon (h : expectColon cs = .ok rest) :
    ∃ b : Blanks, cs = b.text ++ ':' :: rest := by
  obtain ⟨b, hb⟩ := exists_blanks cs
  unfold expectColon at h
  split at h
  · cases h
  rename_i c r hc
  rw [hc] at hb
  split at h
  · rename_i hcolon
    cases h
    exact ⟨b, hcolon ▸ hb⟩
  · cases h

theorem eq_of_closeArray (h : closeArray cs = .ok rest) :
    ∃ b : Blanks, cs = b.text ++ ']' :: rest := by
  obtain ⟨b, hb⟩ := exists_blanks cs
  unfold closeArray at h
  split at h
  · cases h
  rename_i c r hc
  rw [hc] at hb
  split at h
  · rename_i hclose
    cases h
    exact ⟨b, hclose ▸ hb⟩
  · cases h

theorem eq_of_nextElement (h : nextElement first cs = .ok (some rest)) :
    ∃ b b' : Blanks, cs = comma first b ++ (b'.text ++ rest) := by
  obtain ⟨b, hb⟩ := exists_blanks cs
  unfold nextElement at h
  split at h
  · cases h
  rename_i c r hc
  rw [hc] at hb
  split at h
  · cases h
  split at h
  · rename_i hfirst
    subst hfirst
    cases h
    exact ⟨b, b, hb⟩
  · rename_i hfirst
    rw [Bool.not_eq_true] at hfirst
    subst hfirst
    split at h
    · rename_i hcomma
      obtain ⟨b', hb'⟩ := exists_blanks r
      split at h
      · cases h
      rename_i d r' hd
      rw [hd] at hb'
      split at h
      · cases h
      · cases h
        refine ⟨b, b', ?_⟩
        rw [hb, hcomma, hb']
        simp [comma]
    · cases h

def Blanks.append (b b' : Blanks) : Blanks :=
  ⟨b.text ++ b'.text, List.forall_mem_append.2 ⟨b.blank, b'.blank⟩⟩

/-- Entries that may stand in some object or other. -/
def Loose (es : List Entry) : Prop := ∀ e ∈ es, IsString e.key ∧ IsValue e.value

namespace Schema

variable {S : Type} {sch : Schema S} {fields : List (Field S)} {k : sch.Key} {key : String}
  {seen : List String} {acc a : S} {expected : String} {defaults : S}

/-! ## Fields -/

/-- The field is that of the key, and takes only its values. -/
structure ExactField (sch : Schema S) (k : sch.Key) (f : Field S) : Prop where
  key_eq : f.key = sch.name k
  exact : ∀ {cs rest set}, f.reader.run cs = .ok (set, rest) →
    (∃ (b : Blanks) (v : List Char) (x : sch.Value k), cs = b.text ++ (v ++ rest) ∧
      (sch.kind k).Means v x ∧ set = sch.set ⟨k, x⟩) ∧ skipValue cs = .ok rest

theorem exactField_of {r : Reader (sch.Value k)} (hr : r.Exact (sch.kind k))
    {put : sch.Value k → S → S} (hp : ∀ v s, put v s = sch.set ⟨k, v⟩ s) :
    sch.ExactField k (.of (sch.name k) r put) where
  key_eq := rfl
  exact := by
    intro cs rest set h
    obtain ⟨x, hx, rfl⟩ := Field.exists_of_run_ok h
    obtain ⟨⟨b, v, he, hv⟩, hs⟩ := hr hx
    exact ⟨⟨b, v, x, he, hv, funext (hp x)⟩, hs⟩

/-- The fields of the schema, in its order. -/
def ExactBy (sch : Schema S) (fields : List (Field S)) : Prop :=
  List.Forall₂ sch.ExactField sch.keys fields

/-- The texts of all fields are values. -/
def Valued (sch : Schema S) : Prop := ∀ k, (sch.kind k).Valued

theorem exactField_of_find {keys : List sch.Key} (hf : List.Forall₂ sch.ExactField keys fields)
    {f : Field S} (h : fields.find? (·.key == key) = some f) :
    ∃ k, key = sch.name k ∧ sch.ExactField k f := by
  induction hf with
  | nil => cases h
  | @cons k g keys fields hkg _ ih =>
    rw [List.find?_cons] at h
    split at h
    · rename_i hkey
      cases h
      exact ⟨k, by rw [← hkg.key_eq, eq_of_beq hkey], hkg⟩
    · exact ih h

theorem name_ne_of_find {keys : List sch.Key} (hf : List.Forall₂ sch.ExactField keys fields)
    (h : fields.find? (·.key == key) = none) : ∀ k ∈ keys, sch.name k ≠ key := by
  induction hf with
  | nil => exact List.forall_mem_nil _
  | @cons k g keys fields hkg _ ih =>
    rw [List.find?_cons] at h
    split at h
    · cases h
    · rename_i hkey
      rw [hkg.key_eq] at hkey
      exact List.forall_mem_cons.2 ⟨ne_of_beq_false hkey, ih h⟩

/-! ## Members of an object -/

/-- The text of one member, from the comma before it to its value. -/
theorem eq_of_member {r r' r'' : List Char} {key : String}
    (hk : nextKey first cs = .ok (true, r)) (hs : readString r = .ok (key, r'))
    (hc : expectColon r' = .ok r'') {b : Blanks} {v : List Char} (hv : r'' = b.text ++ (v ++ rest))
    {b' : Blanks} {ps : List (List Char)} {last : List Char}
    (hr : rest = upTo false b' ps ++ last) :
    ∃ (b₁ : Blanks) (e : Entry), cs = upTo first b₁ (e.text :: ps) ++ last ∧ IsText e.key key ∧
      e.value = v := by
  obtain ⟨b₁, b₂, rfl⟩ := eq_of_nextKey_true hk
  obtain ⟨body, rfl, hbody⟩ := exists_spells_of_readString hs
  obtain ⟨b₃, rfl⟩ := eq_of_expectColon hc
  subst hv
  subst hr
  refine ⟨b₁, ⟨⟨b, v, b'⟩, b₂, '"' :: body, b₃⟩, ?_, ⟨body, rfl, hbody⟩, rfl⟩
  rw [upTo_cons]
  simp [upTo, Entry.text, Element.text]

/-- The members that are read, up to the close, say what they make of the record. -/
theorem exists_entries_of_readMembers (hf : sch.ExactBy fields)
    (h : readMembers fields seen first acc cs = .ok (a, rest)) :
    ∃ (b : Blanks) (es : List Entry) (items : sch.Items),
      cs = upTo first b (es.map Entry.text) ++ '\x7d' :: rest ∧ sch.Entries es items ∧
        items.NodupKeys ∧ (∀ k ∈ items.keys, sch.name k ∉ seen) ∧ a = sch.override acc items := by
  fun_induction readMembers fields seen first acc cs with
  | case2 seen first acc cs r hk =>
    cases h
    obtain ⟨b, rfl⟩ := eq_of_nextKey_false hk
    exact ⟨b, [], [], by rw [List.map_nil, upTo_nil], .nil, List.nodupKeys_nil,
      fun _ hk => absurd hk List.not_mem_nil, (override_nil a).symm⟩
  | case7 seen first acc cs r hk key r₁ hs field hfind hseen r₂ hc set r₃ hrun _ _ _ _ ih =>
    obtain ⟨b, es, items, hr, hes, hn, hnew, rfl⟩ := ih h
    obtain ⟨k, rfl, hfield⟩ := exactField_of_find hf hfind
    obtain ⟨⟨b', v, x, hv, hmeans, rfl⟩, -⟩ := hfield.exact hrun
    obtain ⟨b₁, e, he, hkey, rfl⟩ := eq_of_member hk hs hc hv hr
    have hk' : k ∉ items.keys := fun hmem => hnew k hmem List.mem_cons_self
    refine ⟨b₁, e :: es, ⟨k, x⟩ :: items, he, .known ⟨hkey, hmeans⟩ hes,
      List.nodupKeys_cons.2 ⟨hk', hn⟩, ?_, override_cons hk'⟩
    rintro k' hmem hs'
    rcases List.mem_cons.1 hmem with rfl | hmem
    · exact hseen (List.contains_iff_mem.2 hs')
    · exact hnew k' hmem (List.mem_cons_of_mem _ hs')
  | case10 seen first acc cs r hk key r₁ hs hfind r₂ hc r₃ hrun _ _ _ _ ih =>
    obtain ⟨b, es, items, hr, hes, hn, hnew, ha⟩ := ih h
    obtain ⟨b', v, hv, hvalue⟩ := exists_isValue_of_skipValue hrun
    obtain ⟨b₁, e, he, hkey, rfl⟩ := eq_of_member hk hs hc hv hr
    refine ⟨b₁, e :: es, items, he, .other ⟨hkey, ?_, hvalue⟩ hes, hn, hnew, ha⟩
    exact fun k => name_ne_of_find hf hfind k (sch.mem_keys k)
  | _ => cases h

/-! ## Elements of an array -/

/-- The elements that are read, up to the close, are those of the first fields. -/
theorem exists_elements_of_readElements {keys : List sch.Key}
    (hf : List.Forall₂ sch.ExactField keys fields) (hkeys : keys.Nodup) {mid : List Char}
    (h : readElements fields first acc cs = .ok (a, mid)) (hc : closeArray mid = .ok rest) :
    ∃ (b : Blanks) (es : List Element) (items : sch.Items),
      cs = upTo first b (es.map Element.text) ++ ']' :: rest ∧ sch.Elements es items ∧
        items.keys <+: keys ∧ a = sch.override acc items := by
  obtain ⟨b, hb⟩ := eq_of_closeArray hc
  have hend (first : Bool) (keys : List sch.Key) (acc : S) :
      ∃ (b : Blanks) (es : List Element) (items : sch.Items),
        mid = upTo first b (es.map Element.text) ++ ']' :: rest ∧ sch.Elements es items ∧
          items.keys <+: keys ∧ acc = sch.override acc items :=
    ⟨b, [], [], by rw [List.map_nil, upTo_nil, hb], .nil, List.nil_prefix, (override_nil acc).symm⟩
  induction hf generalizing first acc cs with
  | nil =>
    cases h
    exact hend first [] a
  | @cons k field keys fields hfield _ ih =>
    rw [List.nodup_cons] at hkeys
    rw [readElements] at h
    split at h
    · cases h
    · cases h
      exact hend first _ a
    rename_i r hr
    split at h
    · cases h
    rename_i set r' hrun
    obtain ⟨b₁, b₂, rfl⟩ := eq_of_nextElement hr
    obtain ⟨⟨b₃, v, x, rfl, hmeans, rfl⟩, -⟩ := hfield.exact hrun
    obtain ⟨b₄, es, items, rfl, hes, hpre, rfl⟩ := ih hkeys.2 h
    have hk : k ∉ items.keys := fun hmem => hkeys.1 (hpre.subset hmem)
    refine ⟨b₁, ⟨b₂.append b₃, v, b₄⟩ :: es, ⟨k, x⟩ :: items, ?_, .cons hmeans hes,
      (List.cons_prefix_cons).2 ⟨rfl, hpre⟩, override_cons hk⟩
    rw [List.map_cons, upTo_cons]
    simp [upTo, Element.text, Blanks.append]

/-! ## Records -/

theorem loose_of_entries (hval : sch.Valued) {es : List Entry} {items : sch.Items}
    (h : sch.Entries es items) : Loose es := by
  induction h with
  | nil => exact List.forall_mem_nil _
  | @known e i _ _ he _ ih =>
    exact List.forall_mem_cons.2 ⟨⟨he.spelled.isString, hval i.1 he.means⟩, ih⟩
  | other he _ ih => exact List.forall_mem_cons.2 ⟨⟨he.spelled.isString, he.value⟩, ih⟩

theorem values_of_elements (hval : sch.Valued) {es : List Element} {items : sch.Items}
    (h : sch.Elements es items) : ∀ e ∈ es, IsValue e.value := by
  unfold Elements at h
  induction h with
  | nil => exact List.forall_mem_nil _
  | @cons e i _ _ he _ ih => exact List.forall_mem_cons.2 ⟨hval i.1 he, ih⟩

theorem exists_pieces_of_means (hval : sch.Valued) {v : List Char}
    (h : (sch.record defaults).Means v a) :
    ∃ (br : Bracket) (b : Blanks) (ps : List (List Char)),
      v = enclosed br b ps ∧ ∀ p ∈ ps, Piece br p := by
  obtain ⟨items, -, ⟨⟨b, es, rfl, hes⟩, -⟩ | ⟨⟨b, es, rfl, hes⟩, -⟩⟩ := h
  · exact ⟨.object, b, _, rfl,
      List.forall_mem_map.2 fun e he => ⟨e, rfl, loose_of_entries hval hes e he⟩⟩
  · exact ⟨.list, b, _, rfl,
      List.forall_mem_map.2 fun e he => ⟨e, rfl, values_of_elements hval hes e he⟩⟩

theorem record_valued (hval : sch.Valued) (defaults : S) : (sch.record defaults).Valued := by
  intro v a h
  obtain ⟨br, b, ps, rfl, hps⟩ := exists_pieces_of_means hval h
  exact isValue_enclosed b hps

theorem readRecord_exact (hf : sch.ExactBy fields)
    (h : readRecord expected fields defaults cs = .ok (a, rest)) :
    ∃ (b : Blanks) (v : List Char), cs = b.text ++ (v ++ rest) ∧
      (sch.record defaults).Means v a := by
  obtain ⟨b, hb⟩ := exists_blanks cs
  unfold readRecord at h
  split at h
  · cases h
  rename_i c r hc
  rw [hc] at hb
  split at h
  · rename_i hopen
    split at h
    · cases h
    rename_i a' mid hread
    split at h
    · cases h
    rename_i rest' hclose
    cases h
    obtain ⟨b', es, items, rfl, hes, hpre, rfl⟩ :=
      exists_elements_of_readElements hf sch.nodup_keys hread hclose
    refine ⟨b, enclosed .list b' (es.map Element.text), ?_, items, rfl,
      .inr ⟨⟨b', es, rfl, hes⟩, hpre⟩⟩
    rw [hb, hopen]
    simp [enclosed, upTo, Bracket.opening, Bracket.close]
  split at h
  · rename_i hopen
    obtain ⟨b', es, items, rfl, hes, hn, -, rfl⟩ := exists_entries_of_readMembers hf h
    refine ⟨b, enclosed .object b' (es.map Entry.text), ?_, items, rfl,
      .inl ⟨⟨b', es, rfl, hes⟩, hn⟩⟩
    rw [hb, hopen]
    simp [enclosed, upTo, Bracket.opening, Bracket.close]
  · cases h

/-- A text of the record ends with its bracket, so nothing may follow that changes its meaning. -/
theorem readRecord_means (hf : sch.ReadBy fields) {v : List Char}
    (h : (sch.record defaults).Means v a) (b : Blanks) (rest : List Char) :
    readRecord expected fields defaults (b.text ++ (v ++ rest)) = .ok (a, rest) := by
  obtain ⟨items, rfl, ⟨ho, hn⟩ | ha⟩ := h
  · exact readRecord_isObject hf ho hn b rest
  · exact readRecord_isArray hf ha b rest

/-- A record reader takes the texts of its schema and no others. -/
theorem recordReader_exact (expected : String) (hf : sch.ExactBy fields) (hval : sch.Valued)
    (defaults : S) : (recordReader expected fields defaults).Exact (sch.record defaults) := by
  intro cs rest a h
  obtain ⟨b, v, rfl, hv⟩ := readRecord_exact hf h
  obtain ⟨br, b', ps, rfl, hps⟩ := exists_pieces_of_means hval hv
  exact ⟨⟨b, _, rfl, hv⟩, skipValue_enclosed hps b b' rest⟩

end Schema

end HandleBridge.Json
