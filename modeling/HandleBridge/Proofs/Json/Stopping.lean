import HandleBridge.Proofs.Json.Cuts

/-
  Values that break off.

  Crossing a value that breaks off finds that the text has ended, or finds a whole value already if
  it is a number that could go on. Where a number breaks off badly it is malformed, and so are all
  the arrays and objects around it (`CutValue`): of these only that number is ever malformed.

  Proved:
  * `skipFrom_cutValue`: a number that breaks off badly, at any depth.
  * `stops`: all other values that break off, by induction on the value; `stops_enclosed` is the
    step for brackets, and `skipFrom_cut_piece` the one for what stands in them.
-/

namespace HandleBridge.Json

variable {cs p rest u v : List Char} {c : Char}

/-! ## Pieces -/

variable {br : Bracket} {stack : List Bracket} {ps : List (List Char)}

/-- What stands in a piece before its value. -/
inductive Lead : Bracket → List Char → Prop where
  | list (b : Blanks) : Lead .list b.text
  | object {key : List Char} (b b' b'' : Blanks) : IsString key →
      Lead .object (b.text ++ (key ++ (b'.text ++ ':' :: b''.text)))

/-- An array or an object, or arrays and objects in each other, that breaks off in a number. -/
inductive CutValue : List Char → Prop where
  | number {p : List Char} : CutNumber p → CutValue p
  | inside {br : Bracket} {ps : List (List Char)} {l p : List Char} : (∀ q ∈ ps, Piece br q) →
      Lead br l → CutValue p → CutValue (br.opening :: joined (ps ++ [l ++ p]))

theorem skipFrom_value_blanks (b : Blanks) (stack : List Bracket) (cs : List Char) :
    skipFrom .value stack (b.text ++ cs) = skipFrom .value stack cs := by
  simp only [skipFrom_value_eq, skipBlanks_append]

theorem Lead.crossed (h : Lead br p) (stack : List Bracket) (cs : List Char) :
    skipFrom .element (br :: stack) (p ++ cs) = skipFrom .value (br :: stack) cs := by
  cases h with
  | list b => rw [skipFrom_element_value, skipFrom_value_blanks]
  | object b b' b'' hk =>
    rw [List.append_assoc, List.append_assoc, List.append_assoc, List.cons_append,
      skipFrom_element_key (skipKey_string hk b b' _), skipFrom_value_blanks]

theorem skipFrom_value_end (b : Blanks) (stack : List Bracket) :
    skipFrom .value stack b.text = .error .endOfText := by
  rw [skipFrom_value_eq, skipBlanks_blanks]

theorem skipFrom_commaOrClose_end (b : Blanks) (stack : List Bracket) :
    skipFrom .commaOrClose (br :: stack) b.text = .error .endOfText := by
  rw [skipFrom_commaOrClose_eq, skipBlanks_blanks]

/-- The text, if it does not end before, goes on with something that does not close `br`. -/
def GoesOn (br : Bracket) (cs : List Char) : Prop := ∀ c ∈ (skipBlanks cs).head?, c ≠ br.close

theorem goesOn_blanks (br : Bracket) (b : Blanks) : GoesOn br b.text := by
  unfold GoesOn
  rw [skipBlanks_blanks]
  exact fun c hc => nomatch hc

theorem Starts.goesOn (h : Starts cs) (br : Bracket) (b : Blanks) :
    GoesOn br (b.text ++ cs) := by
  unfold GoesOn
  rw [h.skipBlanks_eq b]
  obtain ⟨c, ds, rfl, -, hc⟩ := h
  rintro c ⟨⟩
  exact hc br

theorem skipFrom_firstOrClose_of_goesOn (h : GoesOn br cs) :
    skipFrom .firstOrClose (br :: stack) cs = .error .endOfText ∨
      skipFrom .firstOrClose (br :: stack) cs = skipFrom .element (br :: stack) cs := by
  unfold GoesOn at h
  cases hc : skipBlanks cs with
  | nil =>
    left
    rw [skipFrom_firstOrClose_eq, hc]
  | cons c rest =>
    rw [hc] at h
    exact .inr (skipFrom_first hc (h c rfl))

theorem skipFrom_entry_blanks (b : Blanks) (stack : List Bracket) :
    skipFrom .element (br :: stack) b.text = .error .endOfText := by
  cases br with
  | list => rw [skipFrom_element_value, skipFrom_value_end]
  | object =>
    have hk : skipKey b.text = .error .endOfText := by
      unfold skipKey
      rw [skipBlanks_blanks]
    rw [skipFrom_entry_eq, hk]

theorem skipKey_cut (h : Marks v) (hp : Cut p v) (b : Blanks) :
    skipKey (b.text ++ '"' :: p) = .error .endOfText := by
  unfold skipKey
  rw [(starts_quote p).skipBlanks_eq b]
  dsimp only
  rw [if_pos rfl, skipString_cut h hp]

theorem skipKey_end (h : IsString v) (b b' : Blanks) :
    skipKey (b.text ++ (v ++ b'.text)) = .error .endOfText := by
  obtain ⟨body, rfl, hm⟩ := h
  unfold skipKey
  rw [List.cons_append, (starts_quote _).skipBlanks_eq b]
  dsimp only
  rw [if_pos rfl, skipString_marks hm]
  dsimp only
  rw [skipBlanks_blanks]

/-- A piece that breaks off before its value. -/
theorem Lead.cut (h : Lead br v) (hp : Cut p v) (stack : List Bracket) :
    skipFrom .element (br :: stack) p = .error .endOfText ∧ GoesOn br p := by
  cases h with
  | list b =>
    obtain ⟨b', rfl⟩ := hp.blanks
    exact ⟨skipFrom_entry_blanks b' stack, goesOn_blanks _ b'⟩
  | @object key b b' b'' hk =>
    rcases hp.of_append with hp | ⟨p₁, rfl, hp₁⟩
    · obtain ⟨b₁, rfl⟩ := hp.blanks
      exact ⟨skipFrom_entry_blanks b₁ stack, goesOn_blanks _ b₁⟩
    rcases hp₁.of_append with hp | ⟨p₂, rfl, hp₂⟩
    · obtain ⟨body, rfl, hm⟩ := hk
      rcases hp.of_cons with rfl | ⟨p₂, rfl, hp₂⟩
      · rw [List.append_nil]
        exact ⟨skipFrom_entry_blanks b stack, goesOn_blanks _ b⟩
      · refine ⟨?_, (starts_quote p₂).goesOn _ b⟩
        rw [skipFrom_entry_eq, skipKey_cut hm hp₂]
    · refine ⟨?_, (hk.starts.append p₂).goesOn _ b⟩
      rcases hp₂.of_append with hp | ⟨p₃, rfl, hp₃⟩
      · obtain ⟨b₂, rfl⟩ := hp.blanks
        rw [skipFrom_entry_eq, skipKey_end hk]
      rcases hp₃.of_cons with rfl | ⟨p₄, rfl, hp₄⟩
      · rw [List.append_nil, skipFrom_entry_eq, skipKey_end hk]
      · obtain ⟨b₃, rfl⟩ := hp₄.blanks
        rw [skipFrom_element_key (skipKey_string hk b b' _), skipFrom_value_end]

theorem Lead.goesOn (h : Lead br p) (hs : Starts cs) : GoesOn br (p ++ cs) := by
  cases h with
  | list b => exact hs.goesOn .list b
  | object b b' b'' hk =>
    rw [List.append_assoc]
    exact ((hk.starts.append _).append cs).goesOn .object b

/-! ## Values -/

theorem EndsNumber.of_isPrefix (h : EndsNumber v) (hp : p <+: v) : EndsNumber p := by
  obtain ⟨q, rfl⟩ := hp
  cases p with
  | nil => exact fun c hc => nomatch hc
  | cons c p => exact h

theorem starts_opening (br : Bracket) (cs : List Char) : Starts (br.opening :: cs) :=
  ⟨_, _, rfl, by cases br <;> decide, fun br' => by cases br <;> cases br' <;> decide⟩

theorem CutValue.starts (h : CutValue p) : Starts p := by
  cases h with
  | number hn => exact hn.starts
  | inside _ _ _ => exact starts_opening _ _

theorem endsNumber_last (ps : List (List Char)) (p : List Char) :
    EndsNumber ((ps ++ [p]).flatMap (',' :: ·)) := by
  have h : (ps ++ [p]).flatMap (',' :: ·) = ps.flatMap (',' :: ·) ++ ',' :: p := by
    rw [List.flatMap_append, List.flatMap_singleton]
  rw [h]
  refine endsNumber_pieces ps ?_
  rintro c ⟨⟩
  decide

/-- Up to the last piece the crossing goes on as usual. -/
theorem skipFrom_last (h : ∀ q ∈ ps, Piece br q) (hl : Lead br v) (b : Blanks) (cs : List Char) :
    skipFrom .commaOrClose (br :: stack)
        (b.text ++ (ps ++ [v ++ cs]).flatMap (',' :: ·)) =
      skipFrom .value (br :: stack) cs := by
  induction ps generalizing b with
  | nil =>
    have hc : skipBlanks (b.text ++ ([] ++ [v ++ cs]).flatMap (',' :: ·)) = ',' :: (v ++ cs) := by
      rw [skipBlanks_append, List.nil_append, List.flatMap_cons, List.flatMap_nil, List.append_nil,
        skipBlanks_of_not_blank (by decide)]
    rw [skipFrom_comma hc, hl.crossed]
  | cons q ps ih =>
    have hc : skipBlanks (b.text ++ (q :: ps ++ [v ++ cs]).flatMap (',' :: ·)) =
        ',' :: (q ++ (ps ++ [v ++ cs]).flatMap (',' :: ·)) := by
      rw [skipBlanks_append, List.cons_append, List.flatMap_cons, List.cons_append,
        skipBlanks_of_not_blank (by decide)]
    obtain ⟨b', hb⟩ := (crossed_of_piece (h q List.mem_cons_self)).2 stack _ (endsNumber_last ps _)
    rw [skipFrom_comma hc, hb]
    exact ih (fun q' hq => h q' (List.mem_cons_of_mem q hq)) b'

theorem skipFrom_first_last (h : ∀ q ∈ ps, Piece br q) (hl : Lead br v) (hs : Starts cs) :
    skipFrom .firstOrClose (br :: stack) (joined (ps ++ [v ++ cs])) =
      skipFrom .value (br :: stack) cs := by
  cases ps with
  | nil =>
    have hj : joined ([] ++ [v ++ cs]) = v ++ cs := List.append_nil _
    obtain ⟨b, ds, hd, hds⟩ :
        ∃ (b : Blanks) (ds : List Char), v ++ cs = b.text ++ ds ∧ Starts ds := by
      cases hl with
      | list b => exact ⟨b, cs, rfl, hs⟩
      | object b b' b'' hk => exact ⟨b, _, List.append_assoc _ _ _, (hk.starts.append _).append _⟩
    have hb := hds.skipBlanks_eq b
    obtain ⟨c, ds, rfl, -, hc⟩ := hds
    rw [hj, hd, skipFrom_first hb (hc br), ← hd, hl.crossed]
  | cons q ps =>
    have hj : joined (q :: ps ++ [v ++ cs]) = q ++ (ps ++ [v ++ cs]).flatMap (',' :: ·) := rfl
    obtain ⟨⟨b, ds, rfl, hds⟩, hq⟩ := crossed_of_piece (h q List.mem_cons_self)
    obtain ⟨b', hb⟩ := hq stack _ (endsNumber_last ps (v ++ cs))
    have hf := (hds.append ((ps ++ [v ++ cs]).flatMap (',' :: ·))).skipBlanks_eq b
    obtain ⟨c, ds, rfl, -, hc⟩ := hds
    rw [List.append_assoc] at hb
    rw [hj, List.append_assoc, skipFrom_first hf (hc br), hb]
    exact skipFrom_last (fun q' hq => h q' (List.mem_cons_of_mem _ hq)) hl b' cs

theorem skipFrom_value_scalar (hs : Starts (c :: cs)) (h₁ : c ≠ '[') (h₂ : c ≠ '\x7b')
    {problem : Problem} (h : skipScalar c cs = .error problem) (stack : List Bracket) :
    skipFrom .value stack (c :: cs) = .error problem := by
  have hb : skipBlanks (c :: cs) = c :: cs := hs.skipBlanks_eq noBlanks
  rw [skipFrom_value_eq, hb]
  simp only [if_neg h₁, if_neg h₂, h]

/-- A number that breaks off badly is malformed, however deep it is. -/
theorem skipFrom_cutValue (h : CutValue p) (stack : List Bracket) :
    skipFrom .value stack p = .error .malformed := by
  induction h generalizing stack with
  | number hn =>
    have hs := hn.starts
    obtain ⟨c, cs, rfl, hc, -⟩ := hn.head
    refine skipFrom_value_scalar hs ?_ ?_ (skipScalar_cutNumber hn) stack
    all_goals
      rintro rfl
      exact absurd hc (by decide)
  | @inside br ps l p hps hl hp ih =>
    have hb : skipBlanks (br.opening :: joined (ps ++ [l ++ p])) = br.opening :: _ :=
      skipBlanks_of_not_blank (by cases br <;> decide) _
    rw [skipFrom_open hb, skipFrom_first_last hps hl hp.starts, ih]

/-- A value that breaks off elsewhere has ended too early, or is there already. -/
def Stops (v : List Char) : Prop := ∀ p, Cut p v → CutValue p ∨ ∀ stack,
  skipFrom .value stack p = .error .endOfText ∨
    skipFrom .value stack p = skipFrom .commaOrClose stack []

theorem Starts.of_isPrefix (h : Starts v) (hn : p ≠ []) (hp : p <+: v) : Starts p := by
  obtain ⟨c, cs, rfl, hb, hc⟩ := h
  obtain ⟨d, p, rfl⟩ := List.exists_cons_of_ne_nil hn
  obtain ⟨q, hq⟩ := hp
  cases hq
  exact ⟨c, p, rfl, hb, hc⟩

theorem Lead.goesOn_cut (h : Lead br u) (hv : Starts v) (hp : Cut p v) : GoesOn br (u ++ p) := by
  by_cases hn : p = []
  · subst hn
    rw [List.append_nil]
    cases h with
    | list b => exact goesOn_blanks .list b
    | object b b' b'' hk => exact (hk.starts.append _).goesOn .object b
  · exact h.goesOn (hv.of_isPrefix hn hp.isPrefix)

/-- A piece and what follows it, as far as it goes: it ends in a number that breaks off badly, or
it ends before the blanks behind the piece do, or it goes on behind them. -/
theorem skipFrom_cut_piece {b : Blanks} (hl : Lead br u) (hv : IsValue v) (hs : Stops v)
    (hr : EndsNumber rest) (hp : Cut p (u ++ (v ++ b.text) ++ rest)) :
    (∃ p', p = u ++ p' ∧ CutValue p') ∨
      GoesOn br p ∧ ((∀ stack, skipFrom .element (br :: stack) p = .error .endOfText) ∨
        ∃ p', p = u ++ (v ++ b.text) ++ p' ∧ Cut p' rest ∧ ∀ stack,
          skipFrom .element (br :: stack) p =
            skipFrom .commaOrClose (br :: stack) (b.text ++ p')) := by
  rw [List.append_assoc, List.append_assoc] at hp
  rcases hp.of_append with hp | ⟨p₁, rfl, hp₁⟩
  · exact .inr ⟨(hl.cut hp []).2, .inl fun stack => (hl.cut hp stack).1⟩
  rcases hp₁.of_append with hp | ⟨p₂, rfl, hp₂⟩
  · rcases hs p₁ hp with hcut | hstop
    · exact .inl ⟨p₁, rfl, hcut⟩
    · refine .inr ⟨hl.goesOn_cut hv.starts hp, .inl fun stack => ?_⟩
      rw [hl.crossed]
      rcases hstop (br :: stack) with he | he
      · exact he
      · exact he.trans (skipFrom_commaOrClose_end noBlanks stack)
  have hgo : GoesOn br (u ++ (v ++ p₂)) := hl.goesOn (hv.starts.append p₂)
  have hcross (hends : EndsNumber p₂) (stack : List Bracket) :
      skipFrom .element (br :: stack) (u ++ (v ++ p₂)) =
        skipFrom .commaOrClose (br :: stack) p₂ := by
    rw [hl.crossed]
    exact skipFrom_value hv noBlanks _ _ hends
  rcases hp₂.of_append with hp | ⟨p₃, rfl, hp₃⟩
  · obtain ⟨b', rfl⟩ := hp.blanks
    refine .inr ⟨hgo, .inl fun stack => ?_⟩
    rw [hcross (endsNumber_of_blanks b'), skipFrom_commaOrClose_end]
  · refine .inr ⟨hgo, .inr ⟨p₃, by simp, hp₃, fun stack => ?_⟩⟩
    rw [hcross (endsNumber_blanks b (hr.of_isPrefix hp₃.isPrefix))]

/-- A piece whose value is known to stop. -/
def StopPiece (br : Bracket) (p : List Char) : Prop :=
  ∃ (l v : List Char) (b : Blanks), p = l ++ (v ++ b.text) ∧ Lead br l ∧ IsValue v ∧ Stops v

/-- The text ends in a piece that breaks off badly, behind other pieces. -/
def EndsBadly (br : Bracket) (ps : List (List Char)) : Prop :=
  ∃ ps' l p, ps = ps' ++ [l ++ p] ∧ (∀ q ∈ ps', Piece br q) ∧ Lead br l ∧ CutValue p

theorem EndsBadly.cons {q : List Char} (hq : Piece br q) (h : EndsBadly br ps) :
    EndsBadly br (q :: ps) := by
  obtain ⟨ps', l, p, rfl, hps, hl, hp⟩ := h
  exact ⟨q :: ps', l, p, rfl, List.forall_mem_cons.2 ⟨hq, hps⟩, hl, hp⟩

theorem skipFrom_cut_pieces (hq : ∀ q ∈ ps, Piece br q) (hs : ∀ q ∈ ps, StopPiece br q)
    (hp : Cut p (ps.flatMap (',' :: ·) ++ [br.close])) :
    (∃ qs, p = qs.flatMap (',' :: ·) ∧ EndsBadly br qs) ∨
      ∀ stack (b : Blanks), skipFrom .commaOrClose (br :: stack) (b.text ++ p) =
        .error .endOfText := by
  induction ps generalizing p with
  | nil =>
    obtain rfl : p = [] := hp.eq_nil
    exact .inr fun stack b => by rw [List.append_nil, skipFrom_commaOrClose_end]
  | cons q ps ih =>
    obtain ⟨hq, hqs⟩ := List.forall_mem_cons.1 hq
    obtain ⟨⟨l, v, b', rfl, hl, hv, hstop⟩, hss⟩ := List.forall_mem_cons.1 hs
    rw [List.flatMap_cons, List.append_assoc, List.cons_append] at hp
    rcases hp.of_cons with rfl | ⟨p₁, rfl, hp₁⟩
    · exact .inr fun stack b => by rw [List.append_nil, skipFrom_commaOrClose_end]
    have hcomma (stack : List Bracket) (b : Blanks) :
        skipFrom .commaOrClose (br :: stack) (b.text ++ ',' :: p₁) =
          skipFrom .element (br :: stack) p₁ := by
      refine skipFrom_comma ?_
      rw [skipBlanks_append, skipBlanks_of_not_blank (by decide)]
    rcases skipFrom_cut_piece hl hv hstop (endsNumber_pieces ps (endsNumber_close br [])) hp₁ with
      ⟨p', rfl, hcut⟩ | ⟨-, hend | ⟨p', rfl, hp', hgo⟩⟩
    · refine .inl ⟨[l ++ p'], by simp, [], l, p', rfl, List.forall_mem_nil _, hl, hcut⟩
    · exact .inr fun stack b => by rw [hcomma, hend]
    · rcases ih hqs hss hp' with ⟨qs, rfl, hbad⟩ | hend
      · exact .inl ⟨_ :: qs, rfl, hbad.cons hq⟩
      · exact .inr fun stack b => by rw [hcomma, hgo, hend]

theorem stops_enclosed (hq : ∀ q ∈ ps, Piece br q) (hs : ∀ q ∈ ps, StopPiece br q) (b : Blanks) :
    Stops (enclosed br b ps) := by
  intro p hp
  rcases hp.of_cons with rfl | ⟨p₁, rfl, hp₁⟩
  · exact .inr fun stack => .inl (skipFrom_value_end noBlanks stack)
  have hopen (stack : List Bracket) : skipFrom .value stack (br.opening :: p₁) =
      skipFrom .firstOrClose (br :: stack) p₁ :=
    skipFrom_open (skipBlanks_of_not_blank (by cases br <;> decide) _)
  cases ps with
  | nil =>
    obtain ⟨b', rfl⟩ : ∃ b' : Blanks, p₁ = b'.text := by
      rcases hp₁.of_append with hp | ⟨p₂, rfl, hp₂⟩
      · exact hp.blanks
      · obtain rfl := hp₂.eq_nil
        exact ⟨b, List.append_nil _⟩
    refine .inr fun stack => .inl ?_
    rw [hopen, skipFrom_firstOrClose_eq, skipBlanks_blanks]
  | cons q ps =>
    obtain ⟨hq, hqs⟩ := List.forall_mem_cons.1 hq
    obtain ⟨⟨l, v, b', rfl, hl, hv, hstop⟩, hss⟩ := List.forall_mem_cons.1 hs
    have hp₁ : Cut p₁ (l ++ (v ++ b'.text) ++ (ps.flatMap (',' :: ·) ++ [br.close])) := by
      rw [← List.append_assoc]
      exact hp₁
    rcases skipFrom_cut_piece hl hv hstop (endsNumber_pieces ps (endsNumber_close br [])) hp₁ with
      ⟨p', rfl, hcut⟩ | ⟨hgoes, hrun⟩
    · refine .inl ?_
      have h : CutValue (br.opening :: joined ([] ++ [l ++ p'])) :=
        .inside (List.forall_mem_nil _) hl hcut
      rwa [List.nil_append, joined, List.flatMap_nil, List.append_nil] at h
    have hfirst (stack : List Bracket)
        (he : skipFrom .element (br :: stack) p₁ = .error .endOfText) :
        skipFrom .value stack (br.opening :: p₁) = .error .endOfText := by
      rw [hopen]
      rcases skipFrom_firstOrClose_of_goesOn hgoes with h | h
      · exact h
      · exact h.trans he
    rcases hrun with hend | ⟨p', rfl, hp', hgo⟩
    · exact .inr fun stack => .inl (hfirst stack (hend stack))
    · rcases skipFrom_cut_pieces hqs hss hp' with ⟨qs, rfl, hbad⟩ | hend
      · obtain ⟨ps', l', p, hj, hps, hl', hp⟩ := hbad.cons hq
        refine .inl ?_
        have h := CutValue.inside hps hl' hp
        rwa [← hj] at h
      · exact .inr fun stack => .inl (hfirst stack (by rw [hgo, hend]))

theorem stops_word {word : List Char} (hs : Starts (c :: word)) (h₁ : c ≠ '[') (h₂ : c ≠ '\x7b')
    (h : ∀ cs, skipScalar c cs = expectWord word cs) : Stops (c :: word) := by
  intro p hp
  refine .inr fun stack => .inl ?_
  rcases hp.of_cons with rfl | ⟨p₁, rfl, hp₁⟩
  · exact skipFrom_value_end noBlanks stack
  · refine skipFrom_value_scalar (hs.of_isPrefix (List.cons_ne_nil _ _) hp.isPrefix) h₁ h₂ ?_ stack
    rw [h, expectWord_cut hp₁]

theorem stops_string (h : IsString v) : Stops v := by
  obtain ⟨body, rfl, hm⟩ := h
  intro p hp
  refine .inr fun stack => .inl ?_
  rcases hp.of_cons with rfl | ⟨p₁, rfl, hp₁⟩
  · exact skipFrom_value_end noBlanks stack
  · exact skipFrom_value_scalar (starts_quote p₁) (by decide) (by decide)
      (skipString_cut hm hp₁) stack

theorem stops_number (h : IsNumber v) : Stops v := by
  intro p hp
  rcases h.cut hp with rfl | hcut | hn
  · exact .inr fun stack => .inl (skipFrom_value_end noBlanks stack)
  · exact .inl (.number hcut)
  · refine .inr fun stack => .inr ?_
    have hv := skipFrom_value (.number hn) noBlanks stack [] fun c hc => nomatch hc
    rwa [List.append_nil, noBlanks, List.nil_append] at hv

theorem stops (h : IsValue v) : Stops v := by
  induction h with
  | null => exact stops_word IsValue.null.starts (by decide) (by decide) fun _ => rfl
  | true => exact stops_word IsValue.true.starts (by decide) (by decide) fun _ => rfl
  | false => exact stops_word IsValue.false.starts (by decide) (by decide) fun _ => rfl
  | string hs => exact stops_string hs
  | number hn => exact stops_number hn
  | array b es hv ih =>
    refine stops_enclosed ?_ ?_ b
    all_goals
      intro q hq
      obtain ⟨e, he, rfl⟩ := List.mem_map.1 hq
    · exact ⟨e, rfl, hv e he⟩
    · exact ⟨e.before.text, e.value, e.after, rfl, .list e.before, hv e he, ih e he⟩
  | object b es hk hv ih =>
    refine stops_enclosed ?_ ?_ b
    all_goals
      intro q hq
      obtain ⟨e, he, rfl⟩ := List.mem_map.1 hq
    · exact ⟨e, rfl, hk e he, hv e he⟩
    · refine ⟨_, e.value, e.after, ?_, .object e.beforeKey e.afterKey e.before (hk e he), hv e he,
        ih e he⟩
      simp [Entry.text, Element.text]

/-- What crossing makes of a value that breaks off. -/
theorem skipValue_cut (h : IsValue v) (hp : Cut p v) :
    CutValue p ∨ skipValue p = .error .endOfText ∨ skipValue p = .ok [] := by
  rcases stops h p hp with hcut | hstop
  · exact .inl hcut
  · rcases hstop [] with he | he
    · exact .inr (.inl he)
    · refine .inr (.inr (he.trans ?_))
      rw [skipFrom]

theorem skipValue_cutValue (h : CutValue p) : skipValue p = .error .malformed :=
  skipFrom_cutValue h []

end HandleBridge.Json
