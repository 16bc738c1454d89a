import HandleBridge.Proofs.Json.Exact

/-
  Texts that differ in their spelling only.

  Two texts are spellings of one value if they have the same structure, the same numbers and words,
  and strings that are the same or stand for the same text; the blanks between the tokens may be
  any (`Respelled`). A record says the same in all its spellings.

  A text has only one structure: its pieces can be told from each other, since every value is
  crossed in one way. So the pieces that a record has are the pieces that are spelled anew.

  Proved:
  * `forall₂_of_upTo`: two sequences of pieces with the same text.
  * `record_respells`: records, of which the fields may be records.
-/

namespace HandleBridge.Json

variable {cs cs' v v' rest rest' : List Char} {s : String}

/-! ## Spellings -/

/-- The same string, or another one for the same text. -/
inductive SameString : List Char → List Char → Prop where
  | same {cs : List Char} : IsString cs → SameString cs cs
  | text {cs cs' : List Char} {s : String} : IsText cs s → IsText cs' s → SameString cs cs'

/-- Two spellings of one value. -/
inductive Respelled : List Char → List Char → Prop where
  | same {cs : List Char} : IsValue cs → Respelled cs cs
  | text {cs cs' : List Char} {s : String} : IsText cs s → IsText cs' s → Respelled cs cs'
  | array (b b' : Blanks) (es : List (Element × Element)) :
      (∀ e ∈ es, Respelled e.1.value e.2.value) →
      Respelled (enclosed .list b (es.map fun e => e.1.text))
        (enclosed .list b' (es.map fun e => e.2.text))
  | object (b b' : Blanks) (es : List (Entry × Entry)) :
      (∀ e ∈ es, SameString e.1.key e.2.key) → (∀ e ∈ es, Respelled e.1.value e.2.value) →
      Respelled (enclosed .object b (es.map fun e => e.1.text))
        (enclosed .object b' (es.map fun e => e.2.text))

theorem SameString.isString (h : SameString cs cs') : IsString cs ∧ IsString cs' := by
  cases h with
  | same hs => exact ⟨hs, hs⟩
  | text hs hs' => exact ⟨hs.isString, hs'.isString⟩

theorem SameString.isText (h : SameString cs cs') (hs : IsText cs s) : IsText cs' s := by
  cases h with
  | same _ => exact hs
  | text h₁ h₂ =>
    rw [hs.unique h₁]
    exact h₂

theorem Respelled.isValue (h : Respelled cs cs') : IsValue cs ∧ IsValue cs' := by
  induction h with
  | same hv => exact ⟨hv, hv⟩
  | text hs hs' => exact ⟨.string hs.isString, .string hs'.isString⟩
  | array b b' es _ ih =>
    have h₁ : IsValue (enclosed .list b ((es.map Prod.fst).map Element.text)) :=
      .array b _ (List.forall_mem_map.2 fun e he => (ih e he).1)
    have h₂ : IsValue (enclosed .list b' ((es.map Prod.snd).map Element.text)) :=
      .array b' _ (List.forall_mem_map.2 fun e he => (ih e he).2)
    rw [List.map_map] at h₁ h₂
    exact ⟨h₁, h₂⟩
  | object b b' es hk _ ih =>
    have h₁ : IsValue (enclosed .object b ((es.map Prod.fst).map Entry.text)) :=
      .object b _ (List.forall_mem_map.2 fun e he => (hk e he).isString.1)
        (List.forall_mem_map.2 fun e he => (ih e he).1)
    have h₂ : IsValue (enclosed .object b' ((es.map Prod.snd).map Entry.text)) :=
      .object b' _ (List.forall_mem_map.2 fun e he => (hk e he).isString.2)
        (List.forall_mem_map.2 fun e he => (ih e he).2)
    rw [List.map_map] at h₁ h₂
    exact ⟨h₁, h₂⟩

/-- What is neither a string nor in brackets has one spelling. -/
theorem Respelled.eq_of_head {c : Char} (h : Respelled cs cs') (hc : cs.head? = some c)
    (hq : c ≠ '"') (hb : ∀ br : Bracket, c ≠ br.opening) : cs = cs' := by
  cases h with
  | same _ => rfl
  | text hs _ =>
    obtain ⟨body, rfl, -⟩ := hs
    cases hc
    exact absurd rfl hq
  | array b b' es _ =>
    cases hc
    exact absurd rfl (hb .list)
  | object b b' es _ _ =>
    cases hc
    exact absurd rfl (hb .object)

/-! ## One structure -/

/-- Where a value ends does not depend on what is known of it. -/
theorem IsValue.append_inj (h : IsValue v) (h' : IsValue v') (hr : EndsNumber rest)
    (hr' : EndsNumber rest') (he : v ++ rest = v' ++ rest') : v = v' ∧ rest = rest' := by
  have hs := skipValue_value h noBlanks hr
  rw [he, skipValue_value h' noBlanks hr'] at hs
  cases hs
  exact ⟨List.append_cancel_right he, rfl⟩

theorem IsString.append_inj (h : IsString v) (h' : IsString v') (he : v ++ rest = v' ++ rest') :
    v = v' ∧ rest = rest' := by
  obtain ⟨body, rfl, hm⟩ := h
  obtain ⟨body', rfl, hm'⟩ := h'
  obtain ⟨rfl, rfl⟩ := hm.append_inj hm' (List.cons.inj he).2
  exact ⟨rfl, rfl⟩

theorem starts_colon (cs : List Char) : Starts (':' :: cs) :=
  ⟨_, _, rfl, by decide, fun br => by cases br <;> decide⟩

theorem starts_comma (cs : List Char) : Starts (',' :: cs) :=
  ⟨_, _, rfl, by decide, fun br => by cases br <;> decide⟩

/-- Two elements with one text before something that ends them. -/
theorem Element.append_inj {e e' : Element} (h : IsValue e.value) (h' : IsValue e'.value)
    (hr : EndsNumber rest) (hr' : EndsNumber rest') (he : e.text ++ rest = e'.text ++ rest') :
    e.value = e'.value ∧ e.after.text ++ rest = e'.after.text ++ rest' := by
  simp only [Element.text, List.append_assoc] at he
  exact h.append_inj h' (endsNumber_blanks e.after hr) (endsNumber_blanks e'.after hr')
    ((h.starts.append _).append_inj (h'.starts.append _) he)

theorem Entry.append_inj {e e' : Entry} (hk : IsString e.key) (hk' : IsString e'.key)
    (h : IsValue e.value) (h' : IsValue e'.value) (hr : EndsNumber rest) (hr' : EndsNumber rest')
    (he : e.text ++ rest = e'.text ++ rest') :
    (e.key = e'.key ∧ e.value = e'.value) ∧ e.after.text ++ rest = e'.after.text ++ rest' := by
  simp only [Entry.text, List.append_assoc, List.cons_append] at he
  have hkey := (hk.starts.append _).append_inj (hk'.starts.append _) he
  obtain ⟨hkeys, hcolon⟩ := hk.append_inj hk' hkey
  have helement := (starts_colon _).append_inj (starts_colon _) hcolon
  obtain ⟨hvalues, hafter⟩ := Element.append_inj h h' hr hr' (List.cons.inj helement).2
  exact ⟨⟨hkeys, hvalues⟩, hafter⟩

section Pieces

variable {A : Type} {text : A → List Char} {P : A → Prop} {R : A → A → Prop} {first : Bool}
  {b b' : Blanks} {br : Bracket} {as as' : List A}

theorem exists_starts_upTo {p : List Char} (hp : ∃ (b : Blanks) (cs : List Char),
    p = b.text ++ cs ∧ Starts cs) (first : Bool) (b : Blanks) (ps : List (List Char))
    (rest : List Char) : ∃ (b' : Blanks) (cs : List Char),
      upTo first b (p :: ps) ++ rest = b'.text ++ cs ∧ Starts cs := by
  cases first with
  | true =>
    obtain ⟨b', cs, rfl, hs⟩ := hp
    refine ⟨b', cs ++ (ps.flatMap (',' :: ·) ++ rest), ?_, hs.append _⟩
    rw [upTo_cons]
    simp [comma]
  | false =>
    refine ⟨b, ',' :: (p ++ (ps.flatMap (',' :: ·) ++ rest)), ?_, starts_comma _⟩
    rw [upTo_cons]
    simp [comma]

/-- Where there are pieces the text does not look like one without any. -/
theorem upTo_nil_ne {p : List Char} {ps : List (List Char)} (hp : ∃ (b : Blanks) (cs : List Char),
    p = b.text ++ cs ∧ Starts cs) :
    upTo first b [] ++ [br.close] ≠ upTo first b' (p :: ps) ++ [br.close] := by
  intro he
  obtain ⟨b₁, cs, hcs, hs⟩ := exists_starts_upTo hp first b' ps [br.close]
  have hb : skipBlanks (upTo first b [] ++ [br.close]) = [br.close] := by
    rw [upTo_nil, skipBlanks_append, skipBlanks_of_not_blank (isBlank_close br)]
  rw [he, hcs, hs.skipBlanks_eq] at hb
  obtain ⟨c, ds, rfl, -, hc⟩ := hs
  exact hc br (List.cons.inj hb).1

theorem eq_of_upTo_cons {p p' : List Char} {ps ps' : List (List Char)}
    (he : upTo first b (p :: ps) ++ rest = upTo first b' (p' :: ps') ++ rest') :
    p ++ (ps.flatMap (',' :: ·) ++ rest) = p' ++ (ps'.flatMap (',' :: ·) ++ rest') := by
  rw [upTo_cons, upTo_cons] at he
  cases first with
  | true => simpa [comma] using he
  | false =>
    simp only [comma, Bool.false_eq_true, if_false, List.append_assoc, List.cons_append,
      List.nil_append] at he
    exact (List.cons.inj ((starts_comma _).append_inj (starts_comma _) he)).2

/-- Two sequences of pieces with one text agree piece by piece, if one piece can be told from what
follows it. -/
theorem forall₂_of_upTo (after : A → Blanks)
    (hs : ∀ a, P a → ∃ (b : Blanks) (cs : List Char), text a = b.text ++ cs ∧ Starts cs)
    (hstep : ∀ {a a' : A} {rest rest' : List Char}, P a → P a' → EndsNumber rest →
      EndsNumber rest' → text a ++ rest = text a' ++ rest' →
        R a a' ∧ (after a).text ++ rest = (after a').text ++ rest')
    (h : ∀ a ∈ as, P a) (h' : ∀ a ∈ as', P a) (first : Bool) (b b' : Blanks)
    (he : upTo first b (as.map text) ++ [br.close] = upTo first b' (as'.map text) ++ [br.close]) :
    List.Forall₂ R as as' := by
  induction as generalizing as' first b b' with
  | nil =>
    cases as' with
    | nil => exact .nil
    | cons a' as' => exact absurd he (upTo_nil_ne (hs a' (h' a' List.mem_cons_self)))
  | cons a as ih =>
    obtain ⟨ha, has⟩ := List.forall_mem_cons.1 h
    cases as' with
    | nil => exact absurd he.symm (upTo_nil_ne (hs a ha))
    | cons a' as' =>
      obtain ⟨ha', has'⟩ := List.forall_mem_cons.1 h'
      obtain ⟨hr, hafter⟩ := hstep ha ha' (endsNumber_pieces _ (endsNumber_close br []))
        (endsNumber_pieces _ (endsNumber_close br [])) (eq_of_upTo_cons he)
      refine .cons hr (ih has has' false (after a) (after a') ?_)
      simpa [upTo] using hafter

end Pieces

theorem forall₂_of_elements {es es' : List Element} (h : ∀ e ∈ es, IsValue e.value)
    (h' : ∀ e ∈ es', IsValue e.value) {b b' : Blanks}
    (he : enclosed .list b (es.map Element.text) = enclosed .list b' (es'.map Element.text)) :
    List.Forall₂ (fun e e' => e.value = e'.value) es es' :=
  forall₂_of_upTo Element.after (fun e he => ⟨e.before, _, rfl, he.starts.append _⟩)
    Element.append_inj h h' true b b' (List.cons.inj he).2

theorem forall₂_of_entries {es es' : List Entry} (h : Loose es) (h' : Loose es') {b b' : Blanks}
    (he : enclosed .object b (es.map Entry.text) = enclosed .object b' (es'.map Entry.text)) :
    List.Forall₂ (fun e e' => e.key = e'.key ∧ e.value = e'.value) es es' :=
  forall₂_of_upTo (fun e => e.after) (fun e he => ⟨e.beforeKey, _, rfl, he.1.starts.append _⟩)
    (fun ha ha' => Entry.append_inj ha.1 ha'.1 ha.2 ha'.2) h h' true b b' (List.cons.inj he).2

/-! ## Kinds -/

/-- What a text of the kind means does not depend on its spelling. -/
def Kind.Respells {α : Type} (kind : Kind α) : Prop :=
  ∀ {v v' a}, Respelled v v' → kind.Means v a → kind.Means v' a

theorem text_respells : Kind.text.Respells := by
  intro v v' s h hs
  cases h with
  | same _ => exact hs
  | text h₁ h₂ =>
    have hu : s = _ := IsText.unique hs h₁
    rw [hu]
    exact h₂
  | array b b' es _ =>
    obtain ⟨body, hb, -⟩ := hs
    exact absurd (List.cons.inj hb).1 (by decide)
  | object b b' es _ _ =>
    obtain ⟨body, hb, -⟩ := hs
    exact absurd (List.cons.inj hb).1 (by decide)

theorem IsWord.eq_of_respelled {n : Nat} (h : Respelled v v') (hn : IsWord v n) : v = v' := by
  obtain ⟨c, ds, hc, hd⟩ := toDigits_eq_cons n
  have hv : v.head? = some c := by
    rw [hn.1, hc]
    rfl
  refine h.eq_of_head hv ?_ fun br => ?_
  · rintro rfl
    exact absurd hd (by decide)
  · rintro rfl
    cases br
    all_goals exact absurd hd (by decide)

theorem word_respells : Kind.word.Respells := by
  intro v v' n h hn
  rw [← IsWord.eq_of_respelled h hn]
  exact hn

theorem wordOrNull_respells : Kind.wordOrNull.Respells := by
  intro v v' n h hn
  have he : v = v' := by
    rcases hn with ⟨-, rfl⟩ | ⟨n, -, hn⟩
    · exact h.eq_of_head rfl (by decide) fun br => by cases br <;> decide
    · exact hn.eq_of_respelled h
  rw [← he]
  exact hn

namespace Schema

variable {S : Type} {sch : Schema S} {items : sch.Items} {defaults : S}

theorem Entries.respelled (hk : ∀ k, (sch.kind k).Respells) {es es' : List Entry}
    (h : sch.Entries es items)
    (he : List.Forall₂ (fun e e' => SameString e.key e'.key ∧ Respelled e.value e'.value) es es') :
    sch.Entries es' items := by
  induction h generalizing es' with
  | nil =>
    cases he
    exact .nil
  | @known e i es items hki _ ih =>
    cases he with
    | cons hd ht => exact .known ⟨hd.1.isText hki.spelled, hk i.1 hd.2 hki.means⟩ (ih ht)
  | other ho _ ih =>
    cases he with
    | cons hd ht => exact .other ⟨hd.1.isText ho.spelled, ho.unknown, hd.2.isValue.2⟩ (ih ht)

theorem Elements.respelled (hk : ∀ k, (sch.kind k).Respells) {es es' : List Element}
    (h : sch.Elements es items)
    (he : List.Forall₂ (fun e e' => Respelled e.value e'.value) es es') :
    sch.Elements es' items := by
  unfold Elements at h
  induction h generalizing es' with
  | nil =>
    cases he
    exact .nil
  | @cons e i es items hm _ ih =>
    cases he with
    | cons hd ht => exact .cons (hk i.1 hd hm) (ih ht)

theorem Entries.congr {es es' : List Entry} (h : sch.Entries es items)
    (he : List.Forall₂ (fun e e' => e.key = e'.key ∧ e.value = e'.value) es es') :
    sch.Entries es' items := by
  induction h generalizing es' with
  | nil =>
    cases he
    exact .nil
  | known hki _ ih =>
    cases he with
    | cons hd ht => exact .known ⟨hd.1 ▸ hki.spelled, hd.2 ▸ hki.means⟩ (ih ht)
  | other ho _ ih =>
    cases he with
    | cons hd ht => exact .other ⟨hd.1 ▸ ho.spelled, ho.unknown, hd.2 ▸ ho.value⟩ (ih ht)

/-- However an object is taken apart, its entries say the same. -/
theorem IsObject.entries (hval : sch.Valued) {b : Blanks} {es : List Entry}
    (hl : Loose es) (h : sch.IsObject (enclosed .object b (es.map Entry.text)) items) :
    sch.Entries es items := by
  obtain ⟨b', es', hv, hes⟩ := h
  exact hes.congr (forall₂_of_entries (loose_of_entries hval hes) hl hv.symm)

/-- However an array is taken apart, its elements say the same. -/
theorem IsArray.elements (hval : sch.Valued) {b : Blanks} {es : List Element}
    (hl : ∀ e ∈ es, IsValue e.value)
    (h : sch.IsArray (enclosed .list b (es.map Element.text)) items) : sch.Elements es items := by
  obtain ⟨⟨b', es', hv, hes⟩, -⟩ := h
  have hsame := forall₂_of_elements hl (values_of_elements hval hes) hv
  unfold Elements at hes ⊢
  clear hl hv
  induction hsame generalizing items with
  | nil => exact hes
  | cons hd _ ih =>
    cases hes with
    | cons hm ht => exact .cons (hd ▸ hm) (ih ht)

theorem isObject_respelled (hk : ∀ k, (sch.kind k).Respells) (hval : sch.Valued)
    (h : Respelled v v') (ho : sch.IsObject v items) : sch.IsObject v' items := by
  cases h with
  | same _ => exact ho
  | text hs _ =>
    obtain ⟨body, rfl, -⟩ := hs
    obtain ⟨b, es, hv, -⟩ := ho
    exact absurd (List.cons.inj hv).1 (by decide)
  | array _ _ ps _ =>
    obtain ⟨b, es, hv, -⟩ := ho
    exact absurd (List.cons.inj hv).1 (by decide)
  | object b b' ps hkeys hvals =>
    have hl : Loose (ps.map Prod.fst) :=
      List.forall_mem_map.2 fun p hp => ⟨(hkeys p hp).isString.1, (hvals p hp).isValue.1⟩
    have hes : sch.Entries (ps.map Prod.fst) items := by
      refine IsObject.entries hval hl (b := b) ?_
      rw [List.map_map]
      exact ho
    have hps : List.Forall₂ (fun e e' => SameString e.key e'.key ∧ Respelled e.value e'.value)
        (ps.map Prod.fst) (ps.map Prod.snd) :=
      List.forall₂_map_left_iff.2 <| List.forall₂_map_right_iff.2 <|
        List.forall₂_same.2 fun p hp => ⟨hkeys p hp, hvals p hp⟩
    refine ⟨b', ps.map Prod.snd, ?_, hes.respelled hk hps⟩
    rw [List.map_map]
    rfl

theorem isArray_respelled (hk : ∀ k, (sch.kind k).Respells) (hval : sch.Valued)
    (h : Respelled v v') (ha : sch.IsArray v items) : sch.IsArray v' items := by
  cases h with
  | same _ => exact ha
  | text hs _ =>
    obtain ⟨body, rfl, -⟩ := hs
    obtain ⟨⟨b, es, hv, -⟩, -⟩ := ha
    exact absurd (List.cons.inj hv).1 (by decide)
  | array b b' ps hvals =>
    have hl : ∀ e ∈ ps.map Prod.fst, IsValue e.value :=
      List.forall_mem_map.2 fun p hp => (hvals p hp).isValue.1
    have hes : sch.Elements (ps.map Prod.fst) items := by
      refine IsArray.elements hval hl (b := b) ?_
      rw [List.map_map]
      exact ha
    have hps : List.Forall₂ (fun e e' : Element => Respelled e.value e'.value)
        (ps.map Prod.fst) (ps.map Prod.snd) :=
      List.forall₂_map_left_iff.2 <| List.forall₂_map_right_iff.2 <| List.forall₂_same.2 hvals
    refine ⟨⟨b', ps.map Prod.snd, ?_, hes.respelled hk hps⟩, ha.2⟩
    rw [List.map_map]
    rfl
  | object _ _ ps _ _ =>
    obtain ⟨⟨b, es, hv, -⟩, -⟩ := ha
    exact absurd (List.cons.inj hv).1 (by decide)

/-- A record says the same in all its spellings. -/
theorem record_respells (hk : ∀ k, (sch.kind k).Respells) (hval : sch.Valued) (defaults : S) :
    (sch.record defaults).Respells := by
  rintro v v' a h ⟨items, ha, ⟨ho, hn⟩ | harray⟩
  · exact ⟨items, ha, .inl ⟨isObject_respelled hk hval h ho, hn⟩⟩
  · exact ⟨items, ha, .inr (isArray_respelled hk hval h harray)⟩

end Schema

end HandleBridge.Json
