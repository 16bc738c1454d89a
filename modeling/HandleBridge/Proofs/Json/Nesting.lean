import HandleBridge.Proofs.Json.Recognized

/-
  Whatever is crossed is a value.

  The crossing keeps the open brackets in a list and knows nothing of values, so the values have
  to be found again in its steps. Behind a value the crossing goes on as behind any other, with
  the same brackets open (`Values`). For the pieces between two brackets that is an induction on
  the length of the text, and so it is for the brackets in brackets.

  Proved:
  * `skipFrom_value_eq` and its like: what one step does.
  * `exists_pieces_of_skipFrom`: pieces and commas up to the close of the innermost bracket.
  * `values`: a value, at any depth.
  * `exists_isValue_of_skipValue`: whatever is crossed is a value, and the rest stands behind it.
-/

namespace HandleBridge.Json

variable {cs rest : List Char} {c : Char} {br : Bracket} {stack : List Bracket} {n : Nat}

/-! ## Single steps -/

theorem skipFrom_value_eq (stack : List Bracket) (cs : List Char) :
    skipFrom .value stack cs =
      match skipBlanks cs with
      | [] => .error .endOfText
      | c :: rest =>
        if c = '[' then skipFrom .firstOrClose (.list :: stack) rest
        else if c = '\x7b' then skipFrom .firstOrClose (.object :: stack) rest
        else
          match skipScalar c rest with
          | .error p => .error p
          | .ok rest' => skipFrom .commaOrClose stack rest' := by
  conv => lhs; rw [skipFrom]
  split <;> rename_i h <;> simp only [h]
  split
  · rfl
  · split
    · rfl
    · split <;> rename_i hs <;> simp only [hs]

theorem skipFrom_firstOrClose_eq (br : Bracket) (stack : List Bracket) (cs : List Char) :
    skipFrom .firstOrClose (br :: stack) cs =
      match skipBlanks cs with
      | [] => .error .endOfText
      | c :: rest =>
        if c = br.close then skipFrom .commaOrClose stack rest
        else skipFrom .element (br :: stack) cs := by
  conv => lhs; rw [skipFrom]
  split <;> rename_i h <;> simp only [h]

theorem skipFrom_entry_eq (stack : List Bracket) (cs : List Char) :
    skipFrom .element (.object :: stack) cs =
      match skipKey cs with
      | .error p => .error p
      | .ok rest => skipFrom .value (.object :: stack) rest := by
  conv => lhs; rw [skipFrom]
  split <;> rename_i h <;> simp only [h]

theorem skipFrom_commaOrClose_eq (br : Bracket) (stack : List Bracket) (cs : List Char) :
    skipFrom .commaOrClose (br :: stack) cs =
      match skipBlanks cs with
      | [] => .error .endOfText
      | c :: rest =>
        if c = ',' then skipFrom .element (br :: stack) rest
        else if c = br.close then skipFrom .commaOrClose stack rest
        else .error .malformed := by
  conv => lhs; rw [skipFrom]
  split <;> rename_i h <;> simp only [h]

/-! ## Values without brackets, and keys -/

theorem exists_isValue_of_skipScalar (h : skipScalar c cs = .ok rest) :
    ∃ v, c :: cs = v ++ rest ∧ IsValue v := by
  unfold skipScalar at h
  split at h
  · rename_i hc
    exact ⟨_, by rw [hc, eq_append_of_expectWord h]; rfl, .null⟩
  split at h
  · rename_i hc
    exact ⟨_, by rw [hc, eq_append_of_expectWord h]; rfl, .true⟩
  split at h
  · rename_i hc
    exact ⟨_, by rw [hc, eq_append_of_expectWord h]; rfl, .false⟩
  split at h
  · rename_i hc
    obtain ⟨body, rfl, hb⟩ := exists_marks_of_skipString h
    exact ⟨'"' :: body, by rw [hc, List.cons_append], .string ⟨body, rfl, hb⟩⟩
  split at h
  · split at h
    · cases h
    · rename_i hn
      cases h
      obtain ⟨p, hp, hnum⟩ := exists_isNumber_of_readNumeral hn
      exact ⟨p, hp, .number hnum⟩
  · cases h

theorem exists_isString_of_skipKey (h : skipKey cs = .ok rest) :
    ∃ (b b' : Blanks) (key : List Char), cs = b.text ++ (key ++ (b'.text ++ ':' :: rest)) ∧
      IsString key := by
  obtain ⟨b, hb⟩ := exists_blanks cs
  unfold skipKey at h
  split at h
  · cases h
  rename_i c r hc
  rw [hc] at hb
  split at h
  · rename_i hq
    split at h
    · cases h
    rename_i r' hs
    obtain ⟨body, rfl, hm⟩ := exists_marks_of_skipString hs
    obtain ⟨b', hb'⟩ := exists_blanks r'
    split at h
    · cases h
    rename_i d r'' hd
    rw [hd] at hb'
    split at h
    · rename_i hcolon
      cases h
      refine ⟨b, b', '"' :: body, ?_, body, rfl, hm⟩
      rw [hb, hq, hb', hcolon, List.cons_append]
    · cases h
  · cases h

/-! ## Pieces between brackets -/

/-- A piece that may stand between these brackets. -/
def Piece : Bracket → List Char → Prop
  | .list, p => ∃ e : Element, e.text = p ∧ IsValue e.value
  | .object, p => ∃ e : Entry, e.text = p ∧ IsString e.key ∧ IsValue e.value

theorem exists_map_eq {α β : Type} {f : α → β} {P : α → Prop} {ps : List β}
    (h : ∀ p ∈ ps, ∃ a, f a = p ∧ P a) : ∃ as : List α, as.map f = ps ∧ ∀ a ∈ as, P a := by
  induction ps with
  | nil => exact ⟨[], rfl, List.forall_mem_nil _⟩
  | cons p ps ih =>
    obtain ⟨⟨a, rfl, ha⟩, hps⟩ := List.forall_mem_cons.1 h
    obtain ⟨as, rfl, has⟩ := ih hps
    exact ⟨a :: as, rfl, List.forall_mem_cons.2 ⟨ha, has⟩⟩

theorem isValue_enclosed {ps : List (List Char)} (b : Blanks) (h : ∀ p ∈ ps, Piece br p) :
    IsValue (enclosed br b ps) := by
  cases br with
  | list =>
    obtain ⟨es, rfl, he⟩ := exists_map_eq h
    exact .array b es he
  | object =>
    obtain ⟨es, rfl, he⟩ := exists_map_eq h
    exact .object b es (fun e h => (he e h).1) fun e h => (he e h).2

theorem crossed_of_piece {p : List Char} (h : Piece br p) : Crossed br p := by
  cases br with
  | list =>
    obtain ⟨e, rfl, hv⟩ := h
    exact crossed_element hv.starts (skipFrom_value hv)
  | object =>
    obtain ⟨e, rfl, hk, hv⟩ := h
    exact crossed_entry hk (skipFrom_value hv)

/-- Behind a close bracket anything may follow. -/
theorem skipValue_enclosed {ps : List (List Char)} (h : ∀ p ∈ ps, Piece br p) (b b' : Blanks)
    (rest : List Char) : skipValue (b.text ++ (enclosed br b' ps ++ rest)) = .ok rest := by
  unfold skipValue
  rw [skipFrom_enclosed fun p hp => crossed_of_piece (h p hp), skipFrom]

/-- Behind a value the crossing goes on with the same brackets open, on texts up to this
length. -/
def Values (n : Nat) : Prop :=
  ∀ cs stack rest, cs.length ≤ n → skipFrom .value stack cs = .ok rest →
    ∃ (b : Blanks) (v mid : List Char), cs = b.text ++ (v ++ mid) ∧ IsValue v ∧
      skipFrom .commaOrClose stack mid = .ok rest

theorem exists_piece_of_skipFrom (hv : Values n) (hn : cs.length ≤ n)
    (h : skipFrom .element (br :: stack) cs = .ok rest) :
    ∃ p mid, cs = p ++ mid ∧ (∀ b : Blanks, Piece br (p ++ b.text)) ∧
      skipFrom .commaOrClose (br :: stack) mid = .ok rest := by
  cases br with
  | list =>
    rw [skipFrom_element_value] at h
    obtain ⟨b, v, mid, rfl, hval, hmid⟩ := hv _ _ _ hn h
    refine ⟨b.text ++ v, mid, (List.append_assoc _ _ _).symm, fun b' => ?_, hmid⟩
    exact ⟨⟨b, v, b'⟩, (List.append_assoc _ _ _).symm, hval⟩
  | object =>
    rw [skipFrom_entry_eq] at h
    split at h
    · cases h
    rename_i r hk
    have hlt := skipKey_shorter hk
    obtain ⟨b, v, mid, rfl, hval, hmid⟩ := hv _ _ _ (by omega) h
    obtain ⟨b₁, b₂, key, rfl, hkey⟩ := exists_isString_of_skipKey hk
    refine ⟨b₁.text ++ (key ++ (b₂.text ++ ':' :: (b.text ++ v))), mid, by simp, fun b' => ?_, hmid⟩
    exact ⟨⟨⟨b, v, b'⟩, b₁, key, b₂⟩, by simp [Entry.text, Element.text], hkey, hval⟩

theorem exists_pieces_of_skipFrom (hv : Values n) (hn : cs.length ≤ n)
    (h : skipFrom .commaOrClose (br :: stack) cs = .ok rest) :
    ∃ (b : Blanks) (ps : List (List Char)) (mid : List Char),
      cs = b.text ++ (ps.flatMap (',' :: ·) ++ br.close :: mid) ∧ (∀ p ∈ ps, Piece br p) ∧
        skipFrom .commaOrClose stack mid = .ok rest := by
  induction hl : cs.length using Nat.strongRecOn generalizing cs with
  | ind l ih =>
    subst hl
    obtain ⟨b, hb⟩ := exists_blanks cs
    rw [skipFrom_commaOrClose_eq] at h
    split at h
    · cases h
    rename_i c r hc
    rw [hc] at hb
    have hlt : r.length < cs.length := by
      rw [hb, List.length_append, List.length_cons]
      omega
    split at h
    · rename_i hcomma
      obtain ⟨p, r', rfl, hp, hr⟩ := exists_piece_of_skipFrom hv (by omega) h
      rw [List.length_append] at hlt
      obtain ⟨b', ps, mid, rfl, hps, hmid⟩ := ih _ (by omega) (by omega) hr rfl
      refine ⟨b, (p ++ b'.text) :: ps, mid, ?_, List.forall_mem_cons.2 ⟨hp b', hps⟩, hmid⟩
      rw [hb, hcomma]
      simp
    · split at h
      · rename_i hclose
        exact ⟨b, [], r, by rw [hb, hclose]; rfl, List.forall_mem_nil _, h⟩
      · cases h

theorem exists_inside_of_skipFrom (hv : Values n) (hn : cs.length ≤ n)
    (h : skipFrom .firstOrClose (br :: stack) cs = .ok rest) :
    ∃ (b : Blanks) (ps : List (List Char)) (mid : List Char),
      cs = inside b ps ++ br.close :: mid ∧ (∀ p ∈ ps, Piece br p) ∧
        skipFrom .commaOrClose stack mid = .ok rest := by
  obtain ⟨b, hb⟩ := exists_blanks cs
  rw [skipFrom_firstOrClose_eq] at h
  split at h
  · cases h
  rename_i c r hc
  split at h
  · rename_i hclose
    rw [hc, hclose] at hb
    exact ⟨b, [], r, hb, List.forall_mem_nil _, h⟩
  · obtain ⟨p, r', rfl, hp, hr⟩ := exists_piece_of_skipFrom hv hn h
    rw [List.length_append] at hn
    obtain ⟨b', ps, mid, rfl, hps, hmid⟩ := exists_pieces_of_skipFrom hv (by omega) hr
    refine ⟨b, (p ++ b'.text) :: ps, mid, ?_, List.forall_mem_cons.2 ⟨hp b', hps⟩, hmid⟩
    simp [inside, joined]

/-! ## Values -/

theorem exists_enclosed_of_skipFrom (hv : Values n) (hn : cs.length ≤ n)
    (h : skipFrom .firstOrClose (br :: stack) cs = .ok rest) :
    ∃ v mid, br.opening :: cs = v ++ mid ∧ IsValue v ∧
      skipFrom .commaOrClose stack mid = .ok rest := by
  obtain ⟨b, ps, mid, rfl, hps, hmid⟩ := exists_inside_of_skipFrom hv hn h
  exact ⟨enclosed br b ps, mid, by simp [enclosed], isValue_enclosed b hps, hmid⟩

theorem values (n : Nat) : Values n := by
  induction n with
  | zero =>
    intro cs stack rest hn h
    obtain rfl := List.length_eq_zero_iff.1 (Nat.le_zero.1 hn)
    rw [skipFrom_value_eq] at h
    cases h
  | succ n ih =>
    intro cs stack rest hn h
    obtain ⟨b, hb⟩ := exists_blanks cs
    rw [skipFrom_value_eq] at h
    split at h
    · cases h
    rename_i c r hc
    rw [hc] at hb
    have hr : r.length ≤ n := by
      rw [hb, List.length_append, List.length_cons] at hn
      omega
    split at h
    · rename_i hopen
      obtain ⟨v, mid, he, hval, hmid⟩ := exists_enclosed_of_skipFrom ih hr h
      exact ⟨b, v, mid, by rw [hb, hopen, ← he]; rfl, hval, hmid⟩
    split at h
    · rename_i hopen
      obtain ⟨v, mid, he, hval, hmid⟩ := exists_enclosed_of_skipFrom ih hr h
      exact ⟨b, v, mid, by rw [hb, hopen, ← he]; rfl, hval, hmid⟩
    split at h
    · cases h
    · rename_i hs
      obtain ⟨v, he, hval⟩ := exists_isValue_of_skipScalar hs
      exact ⟨b, v, _, by rw [hb, he], hval, h⟩

/-- Whatever is crossed is a value. -/
theorem exists_isValue_of_skipValue (h : skipValue cs = .ok rest) :
    ∃ (b : Blanks) (v : List Char), cs = b.text ++ (v ++ rest) ∧ IsValue v := by
  obtain ⟨b, v, mid, rfl, hv, hmid⟩ := values _ cs [] rest (Nat.le_refl _) h
  rw [skipFrom] at hmid
  cases hmid
  exact ⟨b, v, rfl, hv⟩

end HandleBridge.Json
