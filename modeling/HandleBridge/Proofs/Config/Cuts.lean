import HandleBridge.Proofs.Config.Places
import HandleBridge.Proofs.Json.Broken

/-
  Configurations that break off, and configurations that go on.

  An accepted text may be cut anywhere before the bracket that closes it. Then the parser reports
  the end of the text, and never that its content is wrong. There is one exception (`BreaksOff`):
  the number in a value that nobody asked for is checked in another way, and is malformed where it
  ends behind its sign, its point or the start of its exponent.

  Behind the closing bracket there may be blanks, and anything else is malformed. So a text whose
  content is wrong is no beginning of a text that is accepted.

  Proved:
  * `stoppedBy`: the fields of both records read their texts where these break off.
  * `parse_of_append`, `parse_breaksOff`: the beginnings of accepted texts.
  * `parse_cut_or_extended`: cuts and extensions of all texts.
-/

namespace HandleBridge

open Json

namespace ExportNames

theorem stoppedField (k : Key) {put : String → ExportNames → ExportNames}
    (hp : ∀ v s, put v s = schema.set ⟨k, v⟩ s) :
    schema.StoppedField (fun _ => textPlaces) k (.of k.name textReader put) :=
  Schema.stoppedField_of (tracedField k hp) readText_stops

theorem stoppedBy : schema.StoppedBy (fun _ => textPlaces) fields := forall₂_fields stoppedField

end ExportNames

namespace Config

theorem stoppedBy : schema.StoppedBy fieldPlaces fields := by
  cases tracedBy with
  | cons hexports h =>
    cases h with
    | cons hmemory h =>
      cases h with
      | cons hfuel h =>
        exact .cons (Schema.stoppedField_of hexports fun hv =>
            Schema.readRecord_stops ExportNames.stoppedBy ExportNames.valued hv) <|
          .cons (Schema.stoppedField_of hmemory fun hv => readWord_stops "usize" hv) <|
          .cons (Schema.stoppedField_of hfuel fun hv => readWordOrNull_stops "u64" hv) .nil

variable {text p q : String} {c : Config} {body : List Char}

/-- The text breaks off in a value that nobody asked for, directly behind the sign of a number,
its point, the letter of its exponent or the sign of its exponent. -/
def BreaksOff (text : String) : Prop :=
  ∃ (before : Blanks) (cs : List Char), text.toList = before.text ++ cs ∧ Broken Places cs

/-- The text up to the bracket that closes it, behind which there are only blanks. -/
def Body (text : String) (body : List Char) : Prop :=
  ∃ (br : Bracket) (after : Blanks), text.toList = body ++ br.close :: after.text

/-! ## Cuts -/

theorem parse_end (b : Blanks) (h : text.toList = b.text) : parse text = .error .endOfText := by
  refine parse_of_run_error ?_
  show readRecord _ _ _ _ = _
  unfold readRecord
  rw [h, skipBlanks_blanks]

/-- A beginning of an accepted text is accepted, if only blanks are left of it; otherwise it breaks
off badly or has ended too early. -/
theorem parse_of_append (h : parse (p ++ q) = .ok c) :
    (parse p = .ok c ∧ ∀ ch ∈ q.toList, isBlank ch = true) ∨
      BreaksOff p ∨ parse p = .error .endOfText := by
  obtain ⟨before, cs, after, he, hm⟩ := parse_eq_ok_iff.1 h
  rw [String.toList_append, ← List.append_assoc] at he
  have hwhole (rest : List Char) (hp : p.toList = before.text ++ cs ++ rest)
      (ha : after.text = rest ++ q.toList) :
      parse p = .ok c ∧ ∀ ch ∈ q.toList, isBlank ch = true := by
    have hblank : ∀ ch ∈ rest ++ q.toList, isBlank ch = true := ha ▸ after.blank
    rw [List.forall_mem_append] at hblank
    rw [List.append_assoc] at hp
    exact ⟨parse_eq_ok_iff.2 ⟨before, cs, ⟨rest, hblank.1⟩, hp, hm⟩, hblank.2⟩
  rcases List.append_eq_append_iff.1 he with ⟨rest, hp, hq⟩ | ⟨rest, hp, ha⟩
  · by_cases hr : rest = []
    · subst hr
      rw [List.append_nil] at hp
      exact .inl (hwhole [] (by rw [← hp, List.append_nil]) hq.symm)
    right
    have hcut : Cut p.toList (before.text ++ cs) := ⟨rest, hr, hp.symm⟩
    rcases hcut.of_append with hcut | ⟨p₁, hp₁, hcut⟩
    · obtain ⟨b, hb⟩ := hcut.blanks
      exact .inr (parse_end b hb)
    · rcases Schema.readRecord_cut stoppedBy valued hm hcut with hbad | hend
      · exact .inl ⟨before, p₁, hp₁, hbad⟩
      · refine .inr (parse_of_run_error ?_)
        rw [hp₁]
        exact hend before
  · exact .inl (hwhole rest hp ha)

/-- Where the beginning breaks off badly it is malformed. -/
theorem parse_breaksOff (hb : BreaksOff p) (h : parse (p ++ q) = .ok c) :
    parse p = .error .malformed := by
  obtain ⟨before, cs, hp, u, v, hu, hv, rfl⟩ := hb
  have ht : (p ++ q).toList = before.text ++ (u ++ (v ++ q.toList)) := by
    rw [String.toList_append, hp]
    simp
  have hread : Due.skipped.read v = .error .malformed := by
    rw [Due.read, skipValue_cutValue hv]
  refine parse_of_run_error ?_
  rw [hp, ← List.append_assoc]
  exact (comes_of_parse hu ht h).fails hread

theorem not_blanks_close (br : Bracket) (cs rest : List Char) :
    ¬ ∀ ch ∈ cs ++ br.close :: rest, isBlank ch = true := by
  intro h
  have hc := h br.close (List.mem_append_right cs List.mem_cons_self)
  rw [isBlank_close] at hc
  cases hc

theorem exists_body (h : parse text = .ok c) : ∃ body, Body text body := by
  obtain ⟨before, cs, after, he, hm⟩ := parse_eq_ok_iff.1 h
  obtain ⟨br, b, ps, rfl, -⟩ := Schema.exists_pieces_of_means valued hm
  refine ⟨before.text ++ br.opening :: inside b ps, br, after, ?_⟩
  rw [he]
  simp [enclosed]

/-- A cut before the closing bracket leaves the end of the text as the only problem. -/
theorem parse_cut (h : parse text = .ok c) (hb : Body text body) (hp : p.toList <+: body) :
    (¬ BreaksOff p → parse p = .error .endOfText) ∧
      (BreaksOff p → parse p = .error .malformed) := by
  obtain ⟨br, after, ht⟩ := hb
  obtain ⟨rest, rfl⟩ := hp
  have he : text = p ++ String.ofList (rest ++ br.close :: after.text) := by
    rw [← String.toList_inj, String.toList_append, String.toList_ofList, ht, List.append_assoc]
  rw [he] at h
  refine ⟨fun hn => ?_, fun hbad => parse_breaksOff hbad h⟩
  rcases parse_of_append h with ⟨-, hblank⟩ | hbad | hend
  · rw [String.toList_ofList] at hblank
    exact absurd hblank (not_blanks_close br rest after.text)
  · exact absurd hbad hn
  · exact hend

/-! ## Where a text breaks off badly -/

/-- The last character of a number that breaks off badly. -/
def CutMark (c : Char) : Prop := c ∈ ['-', '.', 'e', 'E', '+']

instance (c : Char) : Decidable (CutMark c) := inferInstanceAs (Decidable (c ∈ _))

theorem exists_mark_of_cutNumber {cs : List Char} (h : CutNumber cs) :
    ∃ front c, cs = front ++ [c] ∧ CutMark c := by
  cases h with
  | sign => exact ⟨[], '-', rfl, by decide⟩
  | point _ _ => exact ⟨_, '.', (List.append_assoc _ _ _).symm, by decide⟩
  | @exponent sign whole fraction mark e _ _ _ he hm =>
    rcases hm with rfl | rfl | rfl
    · refine ⟨sign ++ (whole ++ fraction), e, by simp, ?_⟩
      rcases he with rfl | rfl
      all_goals decide
    · exact ⟨sign ++ (whole ++ (fraction ++ [e])), '+', by simp, by decide⟩
    · exact ⟨sign ++ (whole ++ (fraction ++ [e])), '-', by simp, by decide⟩

theorem exists_mark_of_cutValue {cs : List Char} (h : CutValue cs) :
    ∃ front c, cs = front ++ [c] ∧ CutMark c := by
  induction h with
  | number hn => exact exists_mark_of_cutNumber hn
  | @inside br ps l p _ _ _ ih =>
    obtain ⟨front, c, rfl, hc⟩ := ih
    refine ⟨br.opening :: joined (ps ++ [l ++ front]), c, ?_, hc⟩
    rw [← List.append_assoc, Schema.joined_snoc_append]
    rfl

/-- A text that breaks off badly ends with a mark in a number. -/
theorem cutMark_of_breaksOff (h : BreaksOff text) :
    ∃ c, text.toList.getLast? = some c ∧ CutMark c := by
  obtain ⟨before, cs, ht, u, v, -, hv, rfl⟩ := h
  obtain ⟨front, c, rfl, hc⟩ := exists_mark_of_cutValue hv
  refine ⟨c, ?_, hc⟩
  rw [ht, ← List.append_assoc, ← List.append_assoc, List.getLast?_concat]

/-! ## Extensions -/

theorem parse_more {more : String} (h : parse text = .ok c)
    (hm : ∃ ch ∈ more.toList, isBlank ch = false) : parse (text ++ more) = .error .malformed := by
  obtain ⟨before, cs, after, he, hmeans⟩ := parse_eq_ok_iff.1 h
  have hrun : reader.run (text ++ more).toList = .ok (c, after.text ++ more.toList) := by
    have ht : (text ++ more).toList = before.text ++ (cs ++ (after.text ++ more.toList)) := by
      rw [String.toList_append, he]
      simp
    rw [ht]
    exact Schema.readRecord_means readBy hmeans before _
  have hrest : skipBlanks (after.text ++ more.toList) ≠ [] := by
    rw [skipBlanks_append, Ne, skipBlanks_eq_nil]
    intro hall
    obtain ⟨ch, hmem, hch⟩ := hm
    rw [hall ch hmem] at hch
    cases hch
  unfold parse readWhole
  rw [hrun]
  exact if_neg hrest

/-- Wrong content is not made right by what follows it. -/
theorem parse_mismatch {m : Mismatch} (h : parse text = .error (.mismatch m)) (more : String)
    (c : Config) : parse (text ++ more) ≠ .ok c := by
  intro hc
  rcases parse_of_append hc with ⟨hok, -⟩ | hbad | hend
  · rw [h] at hok
    cases hok
  · have hm := parse_breaksOff hbad hc
    rw [h] at hm
    cases hm
  · rw [h] at hend
    cases hend

/-- An accepted text that is cut before its closing bracket has ended too early, or is malformed if
it breaks off behind the sign, the point or the start of the exponent of a number that nobody asked
for; its content is never wrong. An accepted text that goes on with anything but blanks is
malformed. And a text whose content is wrong goes on to no accepted one. -/
theorem parse_cut_or_extended :
    (∀ text c, parse text = .ok c →
      (∃ body, Body text body) ∧
      (∀ body, Body text body → ∀ p : String, p.toList <+: body →
        (¬ BreaksOff p → parse p = .error .endOfText) ∧
          (BreaksOff p → parse p = .error .malformed)) ∧
      ∀ more : String, (∃ ch ∈ more.toList, isBlank ch = false) →
        parse (text ++ more) = .error .malformed) ∧
    ∀ text m, parse text = .error (.mismatch m) → ∀ more c, parse (text ++ more) ≠ .ok c :=
  ⟨fun _ _ h => ⟨exists_body h, fun _ hb _ hp => parse_cut h hb hp, fun _ hm => parse_more h hm⟩,
    fun _ _ h => parse_mismatch h⟩

/-- A text that is accepted, with a number in an object that nobody asked for. -/
def looseText : String :=
  "\x7b\"fu\\u0065l\" : 7,\"x\":\x7b\"\\ud800\":1e99\x7d,\"exports\":[\"m\"]\x7d"

theorem parse_looseText : parse looseText = .ok { exports := names, fuel := some 7 } := by
  have hn : List.NodupKeys [⟨Key.fuel, some 7⟩, (⟨.exports, names⟩ : Sigma schema.Value)] := by
    unfold List.NodupKeys
    decide
  refine parse_eq_ok_iff.2 ⟨noBlanks, _, noBlanks, ?_, _, rfl, .inl ⟨isObject_loose, hn⟩⟩
  decide +kernel

/-- The same text as far as the letter of the exponent. -/
def looseCut : String := "\x7b\"fu\\u0065l\" : 7,\"x\":\x7b\"\\ud800\":1e"

theorem breaksOff_looseCut : BreaksOff looseCut := by
  have hu : Places ('\x7b' :: joined ([escapedFuel].map Entry.text ++ [noBlanks.text ++
      (written "x" ++ (noBlanks.text ++ ':' :: noBlanks.text))])) .skipped := by
    refine .other (fun e he => ?_) (isText_written "x") fun k => by cases k <;> decide
    obtain rfl := List.mem_singleton.1 he
    exact ⟨known_escapedFuel.spelled.isString, wordOrNull_valued known_escapedFuel.means⟩
  have hl : Lead .object (noBlanks.text ++ (oddEntry.key ++ (noBlanks.text ++ ':' :: []))) := by
    refine .object noBlanks noBlanks noBlanks ?_
    exact ⟨_, rfl, .mark (p := ['\\', 'u', 'd', '8', '0', '0']) (.numbered (.mk (x := 13) (y := 8)
      (z := 0) (w := 0) (by decide) (by decide) (by decide) (by decide))) .close⟩
  have hnumber : CutNumber ([] ++ (['1'] ++ ([] ++ 'e' :: []))) :=
    .exponent (.inl rfl) (.digits (by decide) (digits_digit (by decide))) .none (.inl rfl)
      (.inl rfl)
  refine ⟨noBlanks, _, ?_, _, _, hu, .inside (List.forall_mem_nil _) hl (.number hnumber), rfl⟩
  decide +kernel

theorem parse_cut_or_extended_loose :
    parse looseText = .ok { exports := names, fuel := some 7 } ∧
      parse "\x7b\"fu\\u00" = .error .endOfText ∧
      parse "\x7b\"fu\\u0065l\" : 7,\"x\":\x7b\"\\ud800\":1e9" = .error .endOfText ∧
      parse looseCut = .error .malformed ∧
      parse (looseText ++ " ]") = .error .malformed ∧
      ∀ more c, parse ("[7" ++ more) ≠ .ok c := by
  obtain ⟨hok, hmismatch⟩ := parse_cut_or_extended
  obtain ⟨-, hcut, hmore⟩ := hok _ _ parse_looseText
  have hbody : Body looseText looseText.toList.dropLast := ⟨.object, noBlanks, by decide +kernel⟩
  have hgood {p : String} (d : Char) (hp : p.toList.getLast? = some d) (hd : ¬ CutMark d) :
      ¬ BreaksOff p := by
    intro hb
    obtain ⟨c, hc, hm⟩ := cutMark_of_breaksOff hb
    rw [hp] at hc
    cases hc
    exact hd hm
  refine ⟨parse_looseText, ?_, ?_, ?_, hmore _ ⟨']', by decide +kernel, rfl⟩, ?_⟩
  · exact (hcut _ hbody _ (by decide +kernel)).1 (hgood '0' (by decide +kernel) (by decide))
  · exact (hcut _ hbody _ (by decide +kernel)).1 (hgood '9' (by decide +kernel) (by decide))
  · exact (hcut _ hbody _ (by decide +kernel)).2 breaksOff_looseCut
  · exact hmismatch _ (.wrongKind (.integer 7) "struct ExportNames") (by decide +kernel)

end Config

end HandleBridge
