import HandleBridge.Proofs.Json.Grammar

/-
  Crossing values.

  A value that nobody asked for is crossed with the open brackets in a list, so its nesting is not
  bounded by anything. The invariant is that of one piece (`Crossed`): from its first character on
  it is crossed up to the comma or the close behind it, whatever brackets are open outside.

  Proved:
  * `skipFrom_inside`: pieces that are crossed are crossed between brackets.
  * `skipFrom_value`, `skipValue_value`: by induction on the grammar, every value is crossed.
-/

namespace HandleBridge.Json

variable {cs rest : List Char} {c : Char}
  {br : Bracket} {stack : List Bracket} {ps : List (List Char)}

/-! ## Single steps -/

theorem skipFrom_scalar (hc : Starts (c :: cs)) (h₁ : c ≠ '[') (h₂ : c ≠ '\x7b')
    (hs : skipScalar c cs = .ok rest) (b : Blanks) :
    skipFrom .value stack (b.text ++ c :: cs) = skipFrom .commaOrClose stack rest := by
  have hb := hc.skipBlanks_eq b
  rw [skipFrom]
  split <;> rename_i h <;> rw [hb] at h <;> cases h
  rw [if_neg h₁, if_neg h₂]
  split <;> rename_i h <;> rw [hs] at h <;> cases h
  rfl

theorem skipFrom_open (hb : skipBlanks cs = br.opening :: rest) :
    skipFrom .value stack cs = skipFrom .firstOrClose (br :: stack) rest := by
  rw [skipFrom]
  split <;> rename_i h <;> rw [hb] at h <;> cases h
  cases br
  · rfl
  · rfl

theorem skipFrom_first_close (hb : skipBlanks cs = br.close :: rest) :
    skipFrom .firstOrClose (br :: stack) cs = skipFrom .commaOrClose stack rest := by
  rw [skipFrom]
  split <;> rename_i h <;> rw [hb] at h <;> cases h
  rw [if_pos rfl]

theorem skipFrom_first (hb : skipBlanks cs = c :: rest) (hc : c ≠ br.close) :
    skipFrom .firstOrClose (br :: stack) cs = skipFrom .element (br :: stack) cs := by
  rw [skipFrom]
  split <;> rename_i h <;> rw [hb] at h <;> cases h
  rw [if_neg hc]

theorem skipFrom_element_key (hk : skipKey cs = .ok rest) :
    skipFrom .element (.object :: stack) cs = skipFrom .value (.object :: stack) rest := by
  conv => lhs; rw [skipFrom]
  split <;> rename_i h <;> rw [hk] at h <;> cases h
  rfl

theorem skipFrom_element_value :
    skipFrom .element (.list :: stack) cs = skipFrom .value (.list :: stack) cs := by
  rw [skipFrom.eq_def .element]

theorem skipFrom_comma (hb : skipBlanks cs = ',' :: rest) :
    skipFrom .commaOrClose (br :: stack) cs = skipFrom .element (br :: stack) rest := by
  conv => lhs; rw [skipFrom]
  split <;> rename_i h <;> rw [hb] at h <;> cases h
  rw [if_pos rfl]

theorem skipFrom_close (hb : skipBlanks cs = br.close :: rest) :
    skipFrom .commaOrClose (br :: stack) cs = skipFrom .commaOrClose stack rest := by
  have hc : br.close ≠ ',' := by cases br <;> decide
  conv => lhs; rw [skipFrom]
  split <;> rename_i h <;> rw [hb] at h <;> cases h
  rw [if_neg hc, if_pos rfl]

theorem skipKey_string (h : IsString cs) (b b' : Blanks) (rest : List Char) :
    skipKey (b.text ++ (cs ++ (b'.text ++ ':' :: rest))) = .ok rest := by
  obtain ⟨body, rfl, hm⟩ := h
  unfold skipKey
  rw [List.cons_append, (starts_quote _).skipBlanks_eq b]
  dsimp only
  rw [if_pos rfl, skipString_marks hm]
  dsimp only
  rw [skipBlanks_append, skipBlanks_of_not_blank (by decide)]
  rfl

/-! ## Pieces between brackets -/

/-- A piece that may stand in these brackets: it does not look like their end, and it is crossed
up to the comma or the close behind it. -/
def Crossed (br : Bracket) (p : List Char) : Prop :=
  (∃ (b : Blanks) (cs : List Char), p = b.text ++ cs ∧ Starts cs) ∧
    ∀ stack rest, EndsNumber rest → ∃ b : Blanks,
      skipFrom .element (br :: stack) (p ++ rest) =
        skipFrom .commaOrClose (br :: stack) (b.text ++ rest)

theorem isBlank_close (br : Bracket) : isBlank br.close = false := by
  cases br <;> decide

theorem skipFrom_pieces (hp : ∀ p ∈ ps, Crossed br p) (b : Blanks) (rest : List Char) :
    skipFrom .commaOrClose (br :: stack) (b.text ++ (ps.flatMap (',' :: ·) ++ br.close :: rest)) =
      skipFrom .commaOrClose stack rest := by
  induction ps generalizing b with
  | nil =>
    refine skipFrom_close ?_
    rw [skipBlanks_append]
    exact skipBlanks_of_not_blank (isBlank_close br) rest
  | cons p ps ih =>
    have hc : skipBlanks (b.text ++ ((p :: ps).flatMap (',' :: ·) ++ br.close :: rest)) =
        ',' :: (p ++ (ps.flatMap (',' :: ·) ++ br.close :: rest)) := by
      rw [skipBlanks_append, List.flatMap_cons, List.append_assoc, List.cons_append,
        skipBlanks_of_not_blank (by decide)]
    obtain ⟨b', hb⟩ := (hp p List.mem_cons_self).2 stack _
      (endsNumber_pieces ps (endsNumber_close br rest))
    rw [skipFrom_comma hc, hb]
    exact ih (fun q hq => hp q (List.mem_cons_of_mem p hq)) b'

theorem skipFrom_inside (hp : ∀ p ∈ ps, Crossed br p) (b : Blanks) (rest : List Char) :
    skipFrom .firstOrClose (br :: stack) (inside b ps ++ br.close :: rest) =
      skipFrom .commaOrClose stack rest := by
  cases ps with
  | nil =>
    refine skipFrom_first_close ?_
    rw [inside, skipBlanks_append]
    exact skipBlanks_of_not_blank (isBlank_close br) rest
  | cons p ps =>
    rw [inside, joined, List.append_assoc]
    obtain ⟨⟨b₁, cs, rfl, hs⟩, hc⟩ := hp p List.mem_cons_self
    obtain ⟨b', hb⟩ := hc stack _ (endsNumber_pieces ps (endsNumber_close br rest))
    have hf := (hs.append (ps.flatMap (',' :: ·) ++ br.close :: rest)).skipBlanks_eq b₁
    obtain ⟨c, ds, rfl, -, hn⟩ := hs
    rw [List.append_assoc] at hb ⊢
    rw [skipFrom_first hf (hn br), hb]
    exact skipFrom_pieces (fun q hq => hp q (List.mem_cons_of_mem _ hq)) b' rest

theorem crossed_element {e : Element} (hs : Starts e.value)
    (hv : ∀ (b : Blanks) stack rest, EndsNumber rest →
      skipFrom .value stack (b.text ++ (e.value ++ rest)) = skipFrom .commaOrClose stack rest) :
    Crossed .list e.text := by
  refine ⟨⟨e.before, e.value ++ e.after.text, rfl, hs.append _⟩, fun stack rest hr => ⟨e.after, ?_⟩⟩
  rw [Element.text, List.append_assoc, List.append_assoc, skipFrom_element_value]
  exact hv e.before _ _ (endsNumber_blanks e.after hr)

theorem crossed_entry {e : Entry} (hk : IsString e.key)
    (hv : ∀ (b : Blanks) stack rest, EndsNumber rest →
      skipFrom .value stack (b.text ++ (e.value ++ rest)) = skipFrom .commaOrClose stack rest) :
    Crossed .object e.text := by
  refine ⟨⟨e.beforeKey, _, rfl, hk.starts.append _⟩, fun stack rest hr => ⟨e.after, ?_⟩⟩
  rw [Entry.text, List.append_assoc, List.append_assoc, List.append_assoc, List.cons_append,
    skipFrom_element_key (skipKey_string hk _ _ _), Element.text, List.append_assoc,
    List.append_assoc]
  exact hv e.before _ _ (endsNumber_blanks e.after hr)

/-! ## Values -/

theorem skipScalar_number (h : IsNumber (c :: cs)) (hr : EndsNumber rest) :
    skipScalar c (cs ++ rest) = .ok rest := by
  obtain ⟨d, ds, he, hn, -⟩ := h.head
  cases he
  obtain ⟨v, hv⟩ := readNumeral_number .malformed h hr
  unfold skipScalar
  rw [if_neg, if_neg, if_neg, if_neg, if_pos hn, ← List.cons_append, hv]
  all_goals
    rintro rfl
    exact absurd hn (by decide)

theorem skipFrom_enclosed (hp : ∀ p ∈ ps, Crossed br p) (b b' : Blanks) (rest : List Char) :
    skipFrom .value stack (b.text ++ (enclosed br b' ps ++ rest)) =
      skipFrom .commaOrClose stack rest := by
  have hs : skipBlanks (b.text ++ (enclosed br b' ps ++ rest)) =
      br.opening :: (inside b' ps ++ br.close :: rest) := by
    rw [skipBlanks_append, enclosed, List.cons_append, List.append_assoc, List.singleton_append]
    exact skipBlanks_of_not_blank (by cases br <;> decide) _
  rw [skipFrom_open hs, skipFrom_inside hp]

/-- A value is crossed, whatever is in it, and whatever brackets it stands in. -/
theorem skipFrom_value (h : IsValue cs) (b : Blanks) (stack : List Bracket) (rest : List Char)
    (hr : EndsNumber rest) : skipFrom .value stack (b.text ++ (cs ++ rest)) =
      skipFrom .commaOrClose stack rest := by
  induction h generalizing b stack rest with
  | null => exact skipFrom_scalar (IsValue.null.starts.append rest) (by decide) (by decide) rfl b
  | true => exact skipFrom_scalar (IsValue.true.starts.append rest) (by decide) (by decide) rfl b
  | false => exact skipFrom_scalar (IsValue.false.starts.append rest) (by decide) (by decide) rfl b
  | string ht =>
    obtain ⟨body, rfl, hm⟩ := ht
    exact skipFrom_scalar (starts_quote _) (by decide) (by decide) (skipString_marks hm rest) b
  | number hn =>
    obtain ⟨c, ds, rfl, hc, -⟩ := hn.head
    refine skipFrom_scalar (hn.starts.append rest) ?_ ?_ (skipScalar_number hn hr) b
    all_goals
      rintro rfl
      exact absurd hc (by decide)
  | array b' es hv ih =>
    refine skipFrom_enclosed (fun p hp => ?_) b b' rest
    obtain ⟨e, he, rfl⟩ := List.mem_map.1 hp
    exact crossed_element (hv e he).starts (ih e he)
  | object b' es hk _ ih =>
    refine skipFrom_enclosed (fun p hp => ?_) b b' rest
    obtain ⟨e, he, rfl⟩ := List.mem_map.1 hp
    exact crossed_entry (hk e he) (ih e he)

theorem skipValue_value (h : IsValue cs) (b : Blanks) (hr : EndsNumber rest) :
    skipValue (b.text ++ (cs ++ rest)) = .ok rest := by
  unfold skipValue
  rw [skipFrom_value h b [] rest hr, skipFrom]

end HandleBridge.Json
