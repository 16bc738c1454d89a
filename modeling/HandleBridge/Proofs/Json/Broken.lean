import HandleBridge.Proofs.Json.Paths
import HandleBridge.Proofs.Json.Stopping

/-
  Records that break off.

  A text of a record that breaks off anywhere before its end has ended too early for its reader,
  with one exception: it may break off in a number, directly behind its sign, its point or the
  letter of its exponent, and that number in a value that nobody asked for (`Broken`).

  The proof takes the members as the reader does. The text breaks off in the first of them, or
  what is left of it breaks off in the others.

  Proved:
  * `readMembers_cut`, `readElements_cut`: members and elements.
  * `readRecord_cut`: records, of which the fields may be records.
-/

namespace HandleBridge.Json

variable {α : Type} {cs p rest u v : List Char} {reach : List Char → Due → Prop}

/-- The text breaks off badly in a number of a value that nobody asked for. -/
def Broken (reach : List Char → Due → Prop) (p : List Char) : Prop :=
  ∃ u v, reach u .skipped ∧ CutValue v ∧ p = u ++ v

/-- What the reader makes of `v` where it breaks off: the text has ended, or what there is of it
is a value already, unless it breaks off badly. -/
def StopsIn (run : List Char → Reading α) (reach : List Char → Due → Prop) (v : List Char) : Prop :=
  ∀ p, Cut p v → Broken reach p ∨ ∀ b : Blanks,
    run (b.text ++ p) = .error .endOfText ∨ ∃ a, run (b.text ++ p) = .ok (a, [])

/-! ## Pieces -/

theorem Cut.blanks_snoc {b : Blanks} {c : Char} (hp : Cut p (b.text ++ [c])) :
    ∃ b' : Blanks, p = b'.text := by
  rcases hp.of_append with hp | ⟨p₁, rfl, hp₁⟩
  · exact hp.blanks
  · obtain rfl := hp₁.eq_nil
    exact ⟨b, List.append_nil _⟩

theorem Cut.comma {first : Bool} {b : Blanks} (hp : Cut p (comma first b)) :
    ∃ b' : Blanks, p = b'.text := by
  cases first with
  | true => exact absurd hp not_cut_nil
  | false => exact hp.blanks_snoc

/-- A value between blanks and something else breaks off in it or behind it. -/
theorem Cut.of_value (hv : Starts v) {b : Blanks} (hp : Cut p (b.text ++ (v ++ rest))) :
    (∃ (b' : Blanks) (p' : List Char), p = b'.text ++ p' ∧ Cut p' v) ∨
      ∃ p', p = b.text ++ (v ++ p') ∧ Cut p' rest := by
  rcases hp.of_append with hp | ⟨p₁, rfl, hp₁⟩
  · obtain ⟨b', rfl⟩ := hp.blanks
    obtain ⟨c, cs, rfl, -⟩ := hv
    exact .inl ⟨b', [], (List.append_nil _).symm, c :: cs, List.cons_ne_nil _ _, rfl⟩
  rcases hp₁.of_append with hp | ⟨p₂, rfl, hp₂⟩
  · exact .inl ⟨b, p₁, rfl, hp⟩
  · exact .inr ⟨p₂, rfl, hp₂⟩

/-- What stands in an entry before its value, and what stands before the entry. -/
def Entry.lead (first : Bool) (b : Blanks) (e : Entry) : List Char :=
  comma first b ++ (e.beforeKey.text ++ (e.key ++ (e.afterKey.text ++ [':'])))

theorem Entry.upTo_text (first : Bool) (b : Blanks) (e : Entry) (ps : List (List Char))
    (cs : List Char) :
    upTo first b (e.text :: ps) ++ cs =
      e.lead first b ++ (e.before.text ++ (e.value ++ (upTo false e.after ps ++ cs))) := by
  rw [upTo_cons]
  simp [upTo, Entry.text, Element.text, Entry.lead]

theorem Entry.upTo_snoc (first : Bool) (b : Blanks) (e : Entry) (ps : List (List Char))
    (z : List Char) :
    upTo first b (e.text :: ps ++ [z]) =
      e.lead first b ++ (e.before.text ++ (e.value ++ upTo false e.after (ps ++ [z]))) := by
  have h := Entry.upTo_text first b e (ps ++ [z]) []
  rwa [List.append_nil, List.append_nil] at h

theorem Entry.upTo_lead (first : Bool) (b : Blanks) (e : Entry) (b' : Blanks) (p : List Char) :
    upTo first b (([] : List Entry).map Entry.text ++
        [e.beforeKey.text ++ (e.key ++ (e.afterKey.text ++ ':' :: (b'.text ++ p)))]) =
      e.lead first b ++ (b'.text ++ p) := by
  rw [List.map_nil, List.nil_append, upTo_cons]
  simp [Entry.lead]

theorem endsNumber_upTo (b : Blanks) (ps : List (List Char)) (br : Bracket) :
    EndsNumber (upTo false b ps ++ [br.close]) := by
  rw [upTo, if_neg (by decide), List.append_assoc]
  exact endsNumber_blanks b (endsNumber_pieces ps (endsNumber_close br []))

/-- Where members may break off: before the first value, in it, or behind it. -/
theorem Entry.cut {first : Bool} {e : Entry} {ps : List (List Char)} {br : Bracket}
    (hv : Starts e.value) {b : Blanks} (hp : Cut p (upTo first b (e.text :: ps) ++ [br.close])) :
    Cut p (e.lead first b) ∨
      (∃ (b' : Blanks) (p' : List Char), p = e.lead first b ++ (b'.text ++ p') ∧ Cut p' e.value) ∨
      ∃ p', p = e.lead first b ++ (e.before.text ++ (e.value ++ p')) ∧
        Cut p' (upTo false e.after ps ++ [br.close]) ∧ EndsNumber p' := by
  rw [Entry.upTo_text] at hp
  rcases hp.of_append with hp | ⟨p₁, rfl, hp₁⟩
  · exact .inl hp
  rcases Cut.of_value hv hp₁ with ⟨b', p', rfl, hp'⟩ | ⟨p', rfl, hp'⟩
  · exact .inr (.inl ⟨b', p', rfl, hp'⟩)
  · exact .inr (.inr ⟨p', rfl, hp', (endsNumber_upTo e.after ps br).of_isPrefix hp'.isPrefix⟩)

theorem Element.upTo_text (first : Bool) (b : Blanks) (e : Element) (ps : List (List Char))
    (cs : List Char) :
    upTo first b (e.text :: ps) ++ cs =
      comma first b ++ (e.before.text ++ (e.value ++ (upTo false e.after ps ++ cs))) := by
  rw [upTo_cons]
  simp [upTo, Element.text]

/-! ## Single values -/

theorem readText_stops {s : String} (h : IsText v s) : StopsIn readText reach v :=
  fun _ hp => .inr fun b => .inl (readText_cut h hp b)

theorem readWord_end (expected : String) (b : Blanks) :
    readWord expected b.text = .error .endOfText := by
  unfold readWord
  rw [skipBlanks_blanks]

theorem endsNumber_nil : EndsNumber [] := fun _ hc => nomatch hc

theorem readWord_stops (expected : String) {n : Nat} (h : IsWord v n) :
    StopsIn (readWord expected) reach v := by
  obtain ⟨rfl, hn⟩ := h
  refine fun p hp => .inr fun b => ?_
  rcases cut_toDigits hp with rfl | ⟨m, hm, rfl⟩
  · left
    rw [List.append_nil, readWord_end]
  · refine .inr ⟨m, ?_⟩
    have hr := readWord_toDigits expected (Nat.le_trans hm hn) endsNumber_nil
    rwa [List.append_nil, ← readWord_blanks expected b] at hr

theorem readWordOrNull_end (expected : String) (b : Blanks) :
    readWordOrNull expected b.text = .error .endOfText := by
  unfold readWordOrNull
  rw [skipBlanks_blanks]

theorem readWordOrNull_stops (expected : String) {n : Option Nat} (h : Kind.wordOrNull.Means v n) :
    StopsIn (readWordOrNull expected) reach v := by
  refine fun p hp => .inr fun b => ?_
  rw [readWordOrNull_blanks]
  rcases h with ⟨-, rfl⟩ | ⟨n, -, rfl, hn⟩
  · left
    rcases hp.of_cons with rfl | ⟨p₁, rfl, hp₁⟩
    · exact readWordOrNull_end expected noBlanks
    · unfold readWordOrNull
      rw [skipBlanks_of_not_blank (by decide)]
      simp only [if_true, expectWord_cut hp₁]
  · rcases cut_toDigits hp with rfl | ⟨m, hm, rfl⟩
    · exact .inl (readWordOrNull_end expected noBlanks)
    · refine .inr ⟨some m, ?_⟩
      have hr := readWordOrNull_toDigits expected (Nat.le_trans hm hn) endsNumber_nil
      rwa [List.append_nil] at hr

namespace Schema

variable {S : Type} {sch : Schema S} {fields : List (Field S)} {k : sch.Key} {key : String}
  {known : sch.Key → List Char → Due → Prop} {seen : List String} {first : Bool} {acc : S}
  {es : List Entry} {items : sch.Items}

/-- A field that also reads its texts where they break off. -/
structure StoppedField (sch : Schema S) (known : sch.Key → List Char → Due → Prop)
    (k : sch.Key) (f : Field S) : Prop extends sch.TracedField known k f where
  stops : ∀ {v x}, (sch.kind k).Means v x → StopsIn f.reader.run (known k) v

theorem stoppedField_of {r : Reader (sch.Value k)} {put : sch.Value k → S → S}
    (hf : sch.TracedField known k (.of (sch.name k) r put))
    (hs : ∀ {v x}, (sch.kind k).Means v x → StopsIn r.run (known k) v) :
    sch.StoppedField known k (.of (sch.name k) r put) where
  toTracedField := hf
  stops := by
    intro v x hv p hp
    refine (hs hv p hp).imp_right fun h b => (h b).imp Field.of_run_error ?_
    rintro ⟨a, ha⟩
    exact ⟨put a, Field.of_run_ok ha⟩

/-- The fields of the schema, in its order. -/
def StoppedBy (sch : Schema S) (known : sch.Key → List Char → Due → Prop)
    (fields : List (Field S)) : Prop :=
  List.Forall₂ (sch.StoppedField known) sch.keys fields

theorem StoppedBy.tracedBy (hf : sch.StoppedBy known fields) : sch.TracedBy known fields :=
  hf.imp fun _ _ h => h.toTracedField

theorem exists_stopped (hf : sch.StoppedBy known fields) (k : sch.Key) :
    ∃ f, fields.find? (·.key == sch.name k) = some f ∧ sch.StoppedField known k f :=
  exists_find_of (fun h => h.key_eq) hf (sch.mem_keys k)

/-! ## Members of an object -/

/-- A member that breaks off badly. -/
inductive BadMember (known : sch.Key → List Char → Due → Prop) : List Char → Prop where
  | other {b b' b'' : Blanks} {key p : List Char} {s : String} : IsText key s →
      (∀ k, sch.name k ≠ s) → CutValue p →
      BadMember known (b.text ++ (key ++ (b'.text ++ ':' :: (b''.text ++ p))))
  | field {k : sch.Key} {b b' b'' : Blanks} {key p : List Char} : IsText key (sch.name k) →
      Broken (known k) p →
      BadMember known (b.text ++ (key ++ (b'.text ++ ':' :: (b''.text ++ p))))

theorem nextKey_blanks (first : Bool) (b : Blanks) :
    nextKey first b.text = .error .endOfText := by
  unfold nextKey
  rw [skipBlanks_blanks]

theorem nextKey_comma_blanks (first : Bool) (b b' : Blanks) :
    nextKey first (comma first b ++ b'.text) = .error .endOfText := by
  cases first with
  | true => exact nextKey_blanks true b'
  | false =>
    unfold nextKey comma
    rw [if_neg (by decide), List.append_assoc, skipBlanks_append, List.singleton_append,
      skipBlanks_of_not_blank (by decide)]
    simp [skipBlanks_blanks]

theorem nextKey_comma (first : Bool) (b b' : Blanks) (cs : List Char) :
    nextKey first (comma first b ++ (b'.text ++ '"' :: cs)) = .ok (true, cs) := by
  cases first with
  | true =>
    have h : nextKey true (noBlanks.text ++ (following true [b'.text ++ '"' :: cs] ++ [])) = _ :=
      nextKey_following true noBlanks b' cs
    simpa [comma, following, joined, noBlanks] using h
  | false =>
    have h : nextKey false (b.text ++ (following false [b'.text ++ '"' :: cs] ++ [])) = _ :=
      nextKey_following false b b' cs
    simpa [comma, following] using h

theorem readMembers_of_nextKey_error {problem : Problem} (h : nextKey first cs = .error problem) :
    readMembers fields seen first acc cs = .error problem := by
  rw [readMembers]
  split <;> rename_i hk <;> rw [h] at hk <;> cases hk
  rfl

theorem readMembers_end_of_text (seen : List String) (acc : S) :
    readMembers fields seen false acc [] = .error .endOfText :=
  readMembers_of_nextKey_error (nextKey_blanks false noBlanks)

theorem expectColon_end (b : Blanks) : expectColon b.text = .error .endOfText := by
  unfold expectColon
  rw [skipBlanks_blanks]

/-- What reading makes of a member up to its colon. -/
theorem readMembers_member {s : String} {key : List Char} (hs : IsText key s) (b b₁ : Blanks)
    (cs : List Char) :
    readMembers fields seen first acc (comma first b ++ (b₁.text ++ (key ++ cs))) =
      behindKey fields seen acc (s, cs) := by
  obtain ⟨body, rfl, hbody⟩ := hs
  exact readMembers_of_key (nextKey_comma first b b₁ _) (readString_spells hbody cs)

theorem behindKey_end {s : String} (hs : s ∈ seen → fields.find? (·.key == s) = none)
    (b : Blanks) : behindKey fields seen acc (s, b.text) = .error .endOfText := by
  unfold behindKey
  cases hf : fields.find? (·.key == s) with
  | none => simp only [expectColon_end]
  | some field =>
    have hn : s ∉ seen := fun hm => nomatch hf.symm.trans (hs hm)
    simp only [if_neg hn, expectColon_end]

/-- A member that breaks off before its value. -/
theorem readMembers_cut_key {s : String} {e : Entry} (hk : IsText e.key s)
    (hs : s ∈ seen → fields.find? (·.key == s) = none) {b : Blanks}
    (hp : Cut p (e.lead first b)) :
    readMembers fields seen first acc p = .error .endOfText := by
  unfold Entry.lead at hp
  rcases hp.of_append with hp | ⟨p₁, rfl, hp₁⟩
  · obtain ⟨b', rfl⟩ := hp.comma
    exact readMembers_of_nextKey_error (nextKey_blanks first b')
  rcases hp₁.of_append with hp | ⟨p₂, rfl, hp₂⟩
  · obtain ⟨b', rfl⟩ := hp.blanks
    exact readMembers_of_nextKey_error (nextKey_comma_blanks first b b')
  rcases hp₂.of_append with hp | ⟨p₃, rfl, hp₃⟩
  · obtain ⟨body, hkey, hbody⟩ := hk
    rw [hkey] at hp
    rcases hp.of_cons with rfl | ⟨p₃, rfl, hp₃⟩
    · rw [List.append_nil]
      exact readMembers_of_nextKey_error (nextKey_comma_blanks first b e.beforeKey)
    · exact readMembers_key_error (nextKey_comma first b e.beforeKey p₃) (readString_cut hbody hp₃)
  · rw [readMembers_member hk]
    rcases hp₃.of_append with hp | ⟨p₄, rfl, hp₄⟩
    · obtain ⟨b', rfl⟩ := hp.blanks
      exact behindKey_end hs b'
    · obtain rfl := hp₄.eq_nil
      rw [List.append_nil]
      exact behindKey_end hs e.afterKey

/-- What reading makes of a member behind its colon. -/
theorem readMembers_lead {s : String} {e : Entry} (hs : IsText e.key s) (b : Blanks)
    (cs : List Char) :
    readMembers fields seen first acc (e.lead first b ++ cs) =
      behindColon fields seen acc s cs := by
  simp only [Entry.lead, List.append_assoc, readMembers_member hs, behindKey, List.singleton_append,
    expectColon_blanks]
  rfl

/-- A member that breaks off in the value of a field. -/
theorem readMembers_cut_known (hf : sch.StoppedBy known fields) {e : Entry} {i : Sigma sch.Value}
    (he : sch.Known e i) (hseen : sch.name i.1 ∉ seen) (hp : Cut p e.value) (b b' : Blanks) :
    Broken (known i.1) p ∨
      readMembers fields seen first acc (e.lead first b ++ (b'.text ++ p)) = .error .endOfText := by
  obtain ⟨f, hfind, hfield⟩ := exists_stopped hf i.1
  refine (hfield.stops he.means p hp).imp_right fun hstop => ?_
  rw [readMembers_lead he.spelled, behindColon, hfind]
  simp only [if_neg hseen]
  rcases hstop b' with hrun | ⟨set, hrun⟩
  · rw [hrun]
  · rw [hrun]
    exact readMembers_end_of_text _ _

/-- A member that breaks off in a value that nobody asked for. -/
theorem readMembers_cut_other (hf : sch.StoppedBy known fields) {e : Entry} {s : String}
    (he : sch.Other e s) (hp : Cut p e.value) (b b' : Blanks) :
    CutValue p ∨
      readMembers fields seen first acc (e.lead first b ++ (b'.text ++ p)) = .error .endOfText := by
  refine (skipValue_cut he.value hp).imp_right fun hstop => ?_
  rw [readMembers_lead he.spelled, behindColon, find_eq_none hf.tracedBy.readBy he.unknown]
  simp only [skipValue_blanks]
  rcases hstop with hrun | hrun
  · rw [hrun]
  · rw [hrun]
    exact readMembers_end_of_text _ _

/-- Members that break off: the text has ended, unless it breaks off badly in one of them. -/
theorem readMembers_cut (hf : sch.StoppedBy known fields) (hval : sch.Valued)
    (he : sch.Entries es items) (hn : items.NodupKeys) (hnew : ∀ k ∈ items.keys, sch.name k ∉ seen)
    {b : Blanks} (hp : Cut p (upTo first b (es.map Entry.text) ++ ['\x7d'])) :
    (∃ (es' : List Entry) (z : List Char), Loose es' ∧ BadMember known z ∧
        p = upTo first b (es'.map Entry.text ++ [z])) ∨
      readMembers fields seen first acc p = .error .endOfText := by
  induction he generalizing seen first acc b p with
  | nil =>
    rw [List.map_nil, upTo_nil] at hp
    obtain ⟨b', rfl⟩ := hp.blanks_snoc
    exact .inr (readMembers_of_nextKey_error (nextKey_blanks first b'))
  | @known e i es items hki hes ih =>
    rw [List.nodupKeys_cons] at hn
    have hseen : sch.name i.1 ∉ seen := hnew i.1 List.mem_cons_self
    have hp : Cut p (upTo first b (e.text :: es.map Entry.text) ++ [Bracket.object.close]) := hp
    rcases Entry.cut ((sch.kind i.1).starts_of_means hki.means) hp with
      hp | ⟨b', p', rfl, hp'⟩ | ⟨p', rfl, hp', hends⟩
    · exact .inr (readMembers_cut_key hki.spelled (fun hm => absurd hm hseen) hp)
    · refine (readMembers_cut_known hf hki hseen hp' b b').imp_left fun hbad => ?_
      exact ⟨[], _, List.forall_mem_nil _, .field hki.spelled hbad, (Entry.upTo_lead ..).symm⟩
    · rcases ih hn.2 (unseen_of_cons hn.1 hnew) hp' with ⟨es', z, hl, hz, rfl⟩ | hend
      · refine .inl ⟨e :: es', z, List.forall_mem_cons.2 ⟨⟨hki.spelled.isString,
          hval i.1 hki.means⟩, hl⟩, hz, ?_⟩
        rw [List.map_cons, Entry.upTo_snoc]
      · right
        obtain ⟨f, hfind, hfield⟩ := exists_stopped hf i.1
        rw [readMembers_lead hki.spelled, behindColon, hfind]
        simp only [if_neg hseen, hfield.read hki.means e.before p' hends]
        exact hend
  | @other e s es items ho hes ih =>
    have hfind : fields.find? (·.key == s) = none := find_eq_none hf.tracedBy.readBy ho.unknown
    have hp : Cut p (upTo first b (e.text :: es.map Entry.text) ++ [Bracket.object.close]) := hp
    rcases Entry.cut ho.value.starts hp with hp | ⟨b', p', rfl, hp'⟩ | ⟨p', rfl, hp', hends⟩
    · exact .inr (readMembers_cut_key ho.spelled (fun _ => hfind) hp)
    · refine (readMembers_cut_other hf ho hp' b b').imp_left fun hbad => ?_
      exact ⟨[], _, List.forall_mem_nil _, .other ho.spelled ho.unknown hbad,
        (Entry.upTo_lead ..).symm⟩
    · rcases ih hn hnew hp' with ⟨es', z, hl, hz, rfl⟩ | hend
      · refine .inl ⟨e :: es', z, List.forall_mem_cons.2 ⟨⟨ho.spelled.isString, ho.value⟩, hl⟩, hz,
          ?_⟩
        rw [List.map_cons, Entry.upTo_snoc]
      · right
        rw [readMembers_lead ho.spelled, behindColon, hfind]
        simp only [skipValue_value ho.value e.before hends]
        exact hend

/-! ## Elements of an array -/

theorem nextElement_blanks (first : Bool) (b : Blanks) :
    nextElement first b.text = .error .endOfText := by
  unfold nextElement
  rw [skipBlanks_blanks]

theorem nextElement_comma_blanks (first : Bool) (b b' : Blanks) :
    nextElement first (comma first b ++ b'.text) = .error .endOfText := by
  cases first with
  | true => exact nextElement_blanks true b'
  | false =>
    unfold nextElement comma
    rw [if_neg (by decide), List.append_assoc, skipBlanks_append, List.singleton_append,
      skipBlanks_of_not_blank (by decide)]
    simp [skipBlanks_blanks]

theorem nextElement_comma (first : Bool) (b b' : Blanks) (hs : Starts cs) :
    nextElement first (comma first b ++ (b'.text ++ cs)) = .ok (some cs) := by
  cases first with
  | true =>
    have h : nextElement true (noBlanks.text ++ (following true [b'.text ++ cs] ++ [])) = _ :=
      nextElement_following hs noBlanks b'
    simpa [comma, following, joined, noBlanks] using h
  | false =>
    have h : nextElement false (b.text ++ (following false [b'.text ++ cs] ++ [])) = _ :=
      nextElement_following hs b b'
    simpa [comma, following] using h

/-- An element that breaks off badly. -/
inductive BadElement (known : sch.Key → List Char → Due → Prop) (k : sch.Key) :
    List Char → Prop where
  | mk {b : Blanks} {p : List Char} : Broken (known k) p → BadElement known k (b.text ++ p)

theorem closeArray_end (b : Blanks) : closeArray b.text = .error .endOfText := by
  unfold closeArray
  rw [skipBlanks_blanks]

theorem closing_end (fields : List (Field S)) (first : Bool) (acc : S) (b : Blanks) :
    closing (readElements fields first acc b.text) = .error .endOfText := by
  cases fields with
  | nil =>
    rw [readElements, closing]
    simp only [closeArray_end]
  | cons f fields =>
    rw [readElements, nextElement_blanks]
    rfl

/-- Elements that break off: the text has ended, unless it breaks off badly in one of them. -/
theorem readElements_cut {keys : List sch.Key}
    (hf : List.Forall₂ (sch.StoppedField known) keys fields) (hval : sch.Valued)
    {es : List Element} (he : sch.Elements es items) (hk : items.keys <+: keys)
    {b : Blanks} (hp : Cut p (upTo first b (es.map Element.text) ++ [']'])) :
    (∃ (es' : List Element) (k : sch.Key) (z : List Char), (∀ e ∈ es', IsValue e.value) ∧
        keys[es'.length]? = some k ∧ BadElement known k z ∧
        p = upTo first b (es'.map Element.text ++ [z])) ∨
      closing (readElements fields first acc p) = .error .endOfText := by
  unfold Elements at he
  induction he generalizing keys fields first acc b p with
  | nil =>
    rw [List.map_nil, upTo_nil] at hp
    obtain ⟨b', rfl⟩ := hp.blanks_snoc
    exact .inr (closing_end fields first acc b')
  | @cons e i es items hm hes ih =>
    cases hf with
    | nil => exact absurd (List.eq_nil_of_prefix_nil hk) (List.cons_ne_nil _ _)
    | @cons k f keys fields hfield hf =>
      rw [List.keys_cons, List.cons_prefix_cons] at hk
      obtain ⟨rfl, hk⟩ := hk
      have hstarts := (sch.kind i.1).starts_of_means hm
      rw [List.map_cons, Element.upTo_text] at hp
      rcases hp.of_append with hp | ⟨p₁, rfl, hp₁⟩
      · obtain ⟨b', rfl⟩ := hp.comma
        exact .inr (closing_end _ first acc b')
      rcases Cut.of_value hstarts hp₁ with ⟨b', p', rfl, hp'⟩ | ⟨p', rfl, hp'⟩
      · rcases hfield.stops hm p' hp' with hbad | hstop
        · exact .inl ⟨[], i.1, b'.text ++ p', List.forall_mem_nil _, rfl, ⟨hbad⟩,
            (by rw [List.map_nil, List.nil_append, upTo_cons]; simp)⟩
        right
        by_cases hn : p' = []
        · subst hn
          rw [List.append_nil, readElements, nextElement_comma_blanks]
          rfl
        · rw [readElements, nextElement_comma first b b' (hstarts.of_isPrefix hn hp'.isPrefix)]
          rcases hstop noBlanks with hrun | ⟨set, hrun⟩
          · rw [noBlanks, List.nil_append] at hrun
            simp only [hrun, closing]
          · rw [noBlanks, List.nil_append] at hrun
            simp only [hrun]
            exact closing_end fields false _ noBlanks
      · have hends := (endsNumber_upTo e.after (es.map Element.text) .list).of_isPrefix
          hp'.isPrefix
        rcases ih hf hk hp' with ⟨es', k, z, hl, hk', hz, rfl⟩ | hend
        · refine .inl ⟨e :: es', k, z, List.forall_mem_cons.2 ⟨hval i.1 hm, hl⟩, hk', hz, ?_⟩
          have h := Element.upTo_text first b e (es'.map Element.text ++ [z]) []
          rw [List.append_nil, List.append_nil] at h
          exact h.symm
        · right
          have hrun := hfield.read hm noBlanks p' hends
          rw [noBlanks, List.nil_append] at hrun
          rw [readElements, nextElement_comma first b e.before (hstarts.append p')]
          simp only [hrun]
          exact hend

/-! ## Records -/

theorem joined_snoc_append (ps : List (List Char)) (l cs : List Char) :
    joined (ps ++ [l ++ cs]) = joined (ps ++ [l]) ++ cs := by
  cases ps with
  | nil => simp [joined]
  | cons q ps => simp [joined]

theorem upTo_snoc (b : Blanks) (ps : List (List Char)) (z : List Char) :
    upTo true b (ps ++ [z]) = joined (ps ++ [z]) := by
  cases ps with
  | nil => rfl
  | cons q ps => rfl

theorem broken_of_badMember (hl : Loose es) {z : List Char} (hz : BadMember known z) :
    Broken (sch.Reaches known) ('\x7b' :: joined (es.map Entry.text ++ [z])) := by
  cases hz with
  | @other b₁ b₂ b₃ key p s hs hother hp =>
    have hu : sch.Reaches known ('\x7b' :: joined (es.map Entry.text ++
        [b₁.text ++ (key ++ (b₂.text ++ ':' :: b₃.text))])) .skipped := .other hl hs hother
    refine ⟨_, p, hu, hp, ?_⟩
    rw [List.cons_append, ← joined_snoc_append]
    simp
  | @field k b₁ b₂ b₃ key p hs hp =>
    obtain ⟨u, v, hu, hv, rfl⟩ := hp
    have hu' : sch.Reaches known ('\x7b' :: joined (es.map Entry.text ++
        [b₁.text ++ (key ++ (b₂.text ++ ':' :: (b₃.text ++ u)))])) .skipped := .member hl hs hu
    refine ⟨_, v, hu', hv, ?_⟩
    rw [List.cons_append, ← joined_snoc_append]
    simp

theorem broken_of_badElement {es : List Element} (hl : ∀ e ∈ es, IsValue e.value)
    (hk : sch.keys[es.length]? = some k) {z : List Char} (hz : BadElement known k z) :
    Broken (sch.Reaches known) ('[' :: joined (es.map Element.text ++ [z])) := by
  obtain @⟨b, p, u, v, hu, hv, rfl⟩ := hz
  have hu' : sch.Reaches known ('[' :: joined (es.map Element.text ++ [b.text ++ u])) .skipped :=
    .element hl hk hu
  refine ⟨_, v, hu', hv, ?_⟩
  rw [List.cons_append, ← joined_snoc_append, List.append_assoc]

/-- A record that breaks off has ended too early, unless it breaks off badly. -/
theorem readRecord_cut {expected : String} {defaults a : S} (hf : sch.StoppedBy known fields)
    (hval : sch.Valued) (h : (sch.record defaults).Means v a) (hp : Cut p v) :
    Broken (sch.Reaches known) p ∨ ∀ b : Blanks,
      readRecord expected fields defaults (b.text ++ p) = .error .endOfText := by
  have hend (b : Blanks) : readRecord expected fields defaults b.text = .error .endOfText := by
    unfold readRecord
    rw [skipBlanks_blanks]
  obtain ⟨items, -, ⟨⟨b₁, es, rfl, hes⟩, hn⟩ | ⟨⟨b₁, es, rfl, hes⟩, hpre⟩⟩ := h
  · rcases hp.of_cons with rfl | ⟨p₁, rfl, hp₁⟩
    · exact .inr fun b => by rw [List.append_nil, hend]
    have hcut : _ ∨ readMembers fields [] true defaults p₁ = .error .endOfText :=
      readMembers_cut hf hval hes hn (fun _ _ => List.not_mem_nil) hp₁
    rcases hcut with ⟨es', z, hl, hz, rfl⟩ | hrun
    · rw [upTo_snoc]
      exact .inl (broken_of_badMember hl hz)
    · exact .inr fun b => (readRecord_brace b p₁).trans hrun
  · rcases hp.of_cons with rfl | ⟨p₁, rfl, hp₁⟩
    · exact .inr fun b => by rw [List.append_nil, hend]
    have hcut : _ ∨ closing (readElements fields true defaults p₁) = .error .endOfText :=
      readElements_cut hf hval hes hpre hp₁
    rcases hcut with ⟨es', k, z, hl, hk, hz, rfl⟩ | hrun
    · rw [upTo_snoc]
      exact .inl (broken_of_badElement hl hk hz)
    · exact .inr fun b => (readRecord_bracket b p₁).trans hrun

theorem readRecord_stops {expected : String} {defaults a : S} (hf : sch.StoppedBy known fields)
    (hval : sch.Valued) (h : (sch.record defaults).Means v a) :
    StopsIn (readRecord expected fields defaults) (sch.Reaches known) v :=
  fun _ hp => (readRecord_cut hf hval h hp).imp_right fun he b => .inl (he b)

end Schema

end HandleBridge.Json
