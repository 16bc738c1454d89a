import HandleBridge.Proofs.Config.Places
import HandleBridge.Proofs.Json.Respelled
import HandleBridge.Proofs.Json.Spelling

/-
  The spelling of a configuration does not matter.

  Blanks may stand between any two tokens, and the characters of names and keys may be written in
  any of their forms. A key is that of a field if it stands for the name of the field, and no other
  key is. What stands for no text is refused in a name and in such a key, but not in a value that
  nobody asked for.

  Proved:
  * `Schema.byKey_of_means`: each field has the value of its key, or the default if there is none.
  * `parse_respelled`: another spelling of an accepted text is accepted with the same result.
  * `parse_flawed`, `parse_skipped`: strings that stand for no text.
-/

namespace HandleBridge

open Json

namespace Json.Schema

variable {S : Type} {sch : Schema S} {items : sch.Items} {k : sch.Key} {es : List Entry}
  {defaults a : S}

/-- The fields come from the entries whose keys stand for their names, and from no others. -/
def ByKey (sch : Schema S) (defaults : S) (es : List Entry) (a : S) : Prop :=
  ∀ k, (∀ e ∈ es, IsText e.key (sch.name k) → (sch.kind k).Means e.value (sch.get a k)) ∧
    ((∀ e ∈ es, ¬ IsText e.key (sch.name k)) → sch.get a k = sch.get defaults k)

theorem get_override_of_mem (hn : items.NodupKeys) {x : sch.Value k} (hx : ⟨k, x⟩ ∈ items) :
    sch.get (sch.override defaults items) k = x := by
  unfold override
  rw [sch.get_build, List.mem_dlookup hn hx]
  rfl

theorem get_override_of_not_mem (hk : k ∉ items.keys) :
    sch.get (sch.override defaults items) k = sch.get defaults k := by
  unfold override
  rw [sch.get_build, List.dlookup_eq_none.2 hk]
  rfl

theorem Entries.exists_item (h : sch.Entries es items) {e : Entry} (he : e ∈ es)
    (hk : IsText e.key (sch.name k)) : ∃ x, ⟨k, x⟩ ∈ items ∧ (sch.kind k).Means e.value x := by
  induction h with
  | nil => cases he
  | @known e' i es items hki _ ih =>
    rcases List.mem_cons.1 he with rfl | he
    · obtain ⟨k', x⟩ := i
      obtain rfl : k = k' := sch.name_injective (hk.unique hki.spelled)
      exact ⟨x, List.mem_cons_self, hki.means⟩
    · obtain ⟨x, hx, hm⟩ := ih he
      exact ⟨x, List.mem_cons_of_mem _ hx, hm⟩
  | other ho _ ih =>
    rcases List.mem_cons.1 he with rfl | he
    · exact absurd (hk.unique ho.spelled) (ho.unknown k)
    · exact ih he

theorem Entries.exists_entry (h : sch.Entries es items) (hk : k ∈ items.keys) :
    ∃ e ∈ es, IsText e.key (sch.name k) := by
  induction h with
  | nil => cases hk
  | known hki _ ih =>
    rcases List.mem_cons.1 hk with rfl | hk
    · exact ⟨_, List.mem_cons_self, hki.spelled⟩
    · obtain ⟨e, he, hs⟩ := ih hk
      exact ⟨e, List.mem_cons_of_mem _ he, hs⟩
  | other _ _ ih =>
    obtain ⟨e, he, hs⟩ := ih hk
    exact ⟨e, List.mem_cons_of_mem _ he, hs⟩

/-- Each field has the value that stands under its name, if one does. -/
theorem byKey_of_means (hval : sch.Valued) {b : Blanks} (hl : Loose es)
    (h : (sch.record defaults).Means (enclosed .object b (es.map Entry.text)) a) :
    sch.ByKey defaults es a := by
  obtain ⟨items, rfl, ⟨ho, hn⟩ | ⟨⟨b', es', hv, -⟩, -⟩⟩ := h
  · have hes := ho.entries hval hl
    intro k
    refine ⟨fun e he hs => ?_, fun hno => get_override_of_not_mem fun hmem => ?_⟩
    · obtain ⟨x, hx, hm⟩ := hes.exists_item he hs
      rwa [get_override_of_mem hn hx]
    · obtain ⟨e, he, hs⟩ := hes.exists_entry hmem
      exact hno e he hs
  · exact absurd (List.cons.inj hv).1 (by decide)

end Json.Schema

theorem ExportNames.reader_respells : (ExportNames.schema.record .default).Respells :=
  Schema.record_respells (fun _ => text_respells) valued default

namespace Config

variable {text : String} {c : Config} {cs cs' u v v' w : List Char} {b before after : Blanks}
  {es : List Entry}

theorem kind_respells (k : Key) : (schema.kind k).Respells := by
  cases k with
  | exports => exact ExportNames.reader_respells
  | maxMemoryBytes => exact word_respells
  | fuel => exact wordOrNull_respells

/-- A text with blanks before and after it. -/
def spaced (before : Blanks) (cs : List Char) (after : Blanks) : String :=
  String.ofList (before.text ++ (cs ++ after.text))

theorem toList_spaced (before : Blanks) (cs : List Char) (after : Blanks) :
    (spaced before cs after).toList = before.text ++ (cs ++ after.text) := String.toList_ofList

/-- What an accepted value means does not depend on how the text is taken apart. -/
theorem means_of_parse (hv : IsValue cs) (h : parse (spaced before cs after) = .ok c) :
    (schema.record default).Means cs c := by
  obtain ⟨before', cs', after', he, hm⟩ := parse_eq_ok_iff.1 h
  have hv' := Schema.record_valued valued default hm
  rw [toList_spaced] at he
  obtain ⟨rfl, -⟩ := hv.append_inj hv' (endsNumber_of_blanks after) (endsNumber_of_blanks after')
    ((hv.starts.append _).append_inj (hv'.starts.append _) he)
  exact hm

/-! ## Other spellings -/

/-- Another spelling with other blanks is accepted with the same result. -/
theorem parse_respelled (hr : Respelled cs cs') (h : parse (spaced before cs after) = .ok c)
    (before' after' : Blanks) : parse (spaced before' cs' after') = .ok c := by
  have hm := means_of_parse hr.isValue.1 h
  exact parse_of_means (Schema.record_respells kind_respells valued default hr hm) before' after'

theorem exists_spaced (h : parse text = .ok c) :
    ∃ before cs after, text = spaced before cs after ∧ IsValue cs := by
  obtain ⟨before, cs, after, he, hm⟩ := parse_eq_ok_iff.1 h
  refine ⟨before, cs, after, ?_, Schema.record_valued valued default hm⟩
  rw [← String.toList_inj, toList_spaced, he]

/-! ## Keys -/

theorem isValue_object (hl : Loose es) : IsValue (enclosed .object b (es.map Entry.text)) :=
  .object b es (fun e he => (hl e he).1) fun e he => (hl e he).2

theorem byKey_of_parse (hl : Loose es)
    (h : parse (spaced before (enclosed .object b (es.map Entry.text)) after) = .ok c) :
    schema.ByKey default es c :=
  Schema.byKey_of_means valued hl (means_of_parse (isValue_object hl) h)

/-- The value that is read for the export names. -/
inductive NamesIn : List Char → List Char → Prop where
  | member {b : Blanks} {es : List Entry} {e : Entry} : Loose es → e ∈ es →
      IsText e.key "exports" → NamesIn (enclosed .object b (es.map Entry.text)) e.value
  | element {b : Blanks} {es : List Element} {e : Element} : (∀ e ∈ es, IsValue e.value) →
      es.head? = some e → NamesIn (enclosed .list b (es.map Element.text)) e.value

theorem means_namesIn (hn : NamesIn cs v) (h : (schema.record default).Means cs c) :
    (ExportNames.schema.record .default).Means v c.exports := by
  cases hn with
  | member hl he hs => exact (Schema.byKey_of_means valued hl h .exports).1 _ he hs
  | @element b es e hl he =>
    obtain ⟨items, rfl, ⟨⟨b', es', hv, -⟩, -⟩ | ha⟩ := h
    · exact absurd (List.cons.inj hv).1 (by decide)
    have hes := ha.elements valued hl
    have hkeys := ha.2
    cases hes with
    | nil => cases he
    | @cons e' i es items hm _ =>
      cases he
      obtain ⟨k, x⟩ := i
      rw [List.keys_cons] at hkeys
      obtain ⟨rfl, -⟩ : k = .exports ∧ _ := List.cons_prefix_cons.1 hkeys
      have hx : schema.get (schema.override default (⟨Key.exports, x⟩ :: items)) Key.exports = x :=
        Schema.get_override_of_mem (Schema.nodupKeys_of_prefix ha.2) List.mem_cons_self
      exact hx.symm ▸ hm

/-! ## Strings that stand for no text -/

/-- A name, or a key of one of the records, is not accepted with a flaw in it. -/
theorem parse_flawed (hu : Places u .string) (hw : Flawed w)
    (ht : text.toList = before.text ++ (u ++ w)) (c : Config) : parse text ≠ .ok c := by
  intro h
  obtain ⟨problem, hp⟩ := readString_flawed hw
  have hrun := (comes_of_parse hu ht h).fails hp
  rw [List.append_assoc, ← ht] at hrun
  rw [parse_of_run_error hrun] at h
  cases h

/-- Any other value will do where nobody asks for one. -/
theorem parse_skipped (hu : Places u .skipped) (hv : IsValue v) (hv' : IsValue v')
    (hw : EndsNumber w)
    (h : parse (String.ofList (before.text ++ (u ++ (v ++ w)))) = .ok c) :
    parse (String.ofList (before.text ++ (u ++ (v' ++ w)))) = .ok c := by
  have hread {x : List Char} (hx : IsValue x) : Due.skipped.read (x ++ w) = .ok ("", w) := by
    have hs : skipValue (x ++ w) = .ok w := skipValue_value hx noBlanks hw
    rw [Due.read, hs]
  have hrun := (comes_of_parse hu String.toList_ofList h).congr
    ((hread hv).trans (hread hv').symm)
  rw [List.append_assoc, List.append_assoc] at hrun
  rw [parse_eq_ok, String.toList_ofList] at h ⊢
  rwa [← hrun]

/-- The spelling of a configuration does not matter. A character of a string may be written in any
of its forms, and blanks may stand between any two tokens of an accepted text. A field has the
value of the key that stands for its name. A flaw in a name or in a key of the records is not
accepted, but the value of another key may be anything, and strings in it may stand for no text. -/
theorem parse_by_spelling :
    (∀ p c, Spelling p c ↔ Form c p) ∧
      (∀ text c, parse text = .ok c →
        ∃ before cs after, text = spaced before cs after ∧ IsValue cs) ∧
      (∀ before cs after c, parse (spaced before cs after) = .ok c →
        ∀ before' cs' after', Respelled cs cs' → parse (spaced before' cs' after') = .ok c) ∧
      (∀ before b es after c, Loose es →
        parse (spaced before (enclosed .object b (es.map Entry.text)) after) = .ok c →
          schema.ByKey default es c) ∧
      (∀ before cs after c, parse (spaced before cs after) = .ok c → IsValue cs →
        ∀ b es, Loose es → NamesIn cs (enclosed .object b (es.map Entry.text)) →
          ExportNames.schema.ByKey .default es c.exports) ∧
      (∀ text u w, Places u .string → Flawed w →
        (∃ before : Blanks, text.toList = before.text ++ (u ++ w)) → ∀ c, parse text ≠ .ok c) ∧
      ∀ (before : Blanks) (u v w : List Char) c, Places u .skipped → IsValue v → EndsNumber w →
        parse (String.ofList (before.text ++ (u ++ (v ++ w)))) = .ok c → ∀ v', IsValue v' →
          parse (String.ofList (before.text ++ (u ++ (v' ++ w)))) = .ok c := by
  refine ⟨fun _ _ => spelling_iff, fun _ _ => exists_spaced,
    fun _ _ _ _ h _ _ _ hr => parse_respelled hr h _ _, fun _ _ _ _ _ => byKey_of_parse,
    fun _ _ _ _ h hv _ _ hl hn => ?_, ?_, fun _ _ _ _ _ hu hv hw h _ hv' =>
      parse_skipped hu hv hv' hw h⟩
  · exact Schema.byKey_of_means ExportNames.valued hl (means_namesIn hn (means_of_parse hv h))
  · rintro text u w hu hw ⟨before, ht⟩ c
    exact parse_flawed hu hw ht c

/-! ## A name beyond U+FFFF -/

/-- The name by the numbers of its two halves, in both cases of digits. -/
def clefByNumber : List Char :=
  ['"', '\\', 'u', 'D', '8', '3', '4', '\\', 'u', 'd', 'd', '1', 'e', '"']

theorem isText_clefByNumber : IsText clefByNumber "𝄞" := by
  have hhigh : Quad ['D', '8', '3', '4'] (highHalf '𝄞') :=
    .mk (x := 13) (y := 8) (z := 3) (w := 4) (by decide) (by decide) (by decide) (by decide)
  have hlow : Quad ['d', 'd', '1', 'e'] (lowHalf '𝄞') :=
    .mk (x := 13) (y := 13) (z := 1) (w := 14) (by decide) (by decide) (by decide) (by decide)
  exact ⟨_, rfl, .char (spelling_iff.2 (.pair (by decide) hhigh hlow)) .close⟩

def clefNames : Entry := Entry.written "memory" (written "𝄞")

def clefEntries : List Entry :=
  [Entry.written "exports" (enclosed .object noBlanks [clefNames.text]), Entry.written "fuel" ['7']]

def clefConfig : Config :=
  { exports := { ExportNames.default with memory := "𝄞" }, fuel := some 7 }

/-- The same members with other blanks, and with escapes in the name and in a key. -/
def clefRespelled : List (Entry × Entry) :=
  [(Entry.written "exports" (enclosed .object noBlanks [clefNames.text]),
      ⟨⟨noBlanks, enclosed .object noBlanks [Entry.text ⟨⟨space, clefByNumber, noBlanks⟩, space,
        written "memory", noBlanks⟩], space⟩, space, written "exports", noBlanks⟩),
    (Entry.written "fuel" ['7'], escapedFuel)]

theorem respelled_clef : Respelled
    (enclosed .object noBlanks (clefRespelled.map fun e => e.1.text))
    (enclosed .object noBlanks (clefRespelled.map fun e => e.2.text)) := by
  refine .object noBlanks noBlanks clefRespelled ?_ ?_
  · rintro e he
    rcases List.mem_pair.1 he with rfl | rfl
    · exact .text (isText_written "exports") (isText_written "exports")
    · exact .text (isText_written "fuel") known_escapedFuel.spelled
  · rintro e he
    rcases List.mem_pair.1 he with rfl | rfl
    · refine .object noBlanks noBlanks [(clefNames, _)] ?_ ?_
      all_goals
        rintro e he
        obtain rfl := List.mem_singleton.1 he
      · exact .text (isText_written "memory") (isText_written "memory")
      · exact .text (isText_written "𝄞") isText_clefByNumber
    · exact .same (wordOrNull_valued known_escapedFuel.means)

/-- The text up to the name of the memory, in the names and in the configuration. -/
def upToName : List Char :=
  '\x7b' :: joined (([] : List Entry).map Entry.text ++ [noBlanks.text ++
    (written "memory" ++ (noBlanks.text ++ ':' :: (noBlanks.text ++ ['"'])))])

def upToMemory : List Char :=
  '\x7b' :: joined ([Entry.written "fuel" ['7']].map Entry.text ++ [noBlanks.text ++
    (written "exports" ++ (noBlanks.text ++ ':' :: (noBlanks.text ++ upToName)))])

theorem loose_fuel : Loose [Entry.written "fuel" ['7']] :=
  List.forall_mem_singleton.2
    ⟨(isText_written "fuel").isString, wordOrNull_valued known_escapedFuel.means⟩

theorem places_upToMemory : Places upToMemory .string := by
  have hname : ExportNames.Places upToName .string :=
    .member (List.forall_mem_nil _) (isText_written (ExportNames.schema.name .memory)) ⟨rfl, rfl⟩
  exact .member loose_fuel (isText_written (schema.name Key.exports)) hname

/-- Half of a pair, with the end of the string behind it. -/
theorem flawed_half : Flawed ['a', '\\', 'u', 'd', '8', '3', '4', '"', '\x7d', '\x7d'] := by
  have hhigh : Quad ['d', '8', '3', '4'] 0xd834 :=
    .mk (x := 13) (y := 8) (z := 3) (w := 4) (by decide) (by decide) (by decide) (by decide)
  have hflaw : Flaw ('\\' :: 'u' :: (['d', '8', '3', '4'] ++ ['"', '\x7d', '\x7d'])) :=
    .high hhigh (by decide) fun es m more he => absurd (List.cons.inj he).1 (by decide)
  exact .char (p := ['a']) (.plain (by decide) (by decide) (by decide)) (.flaw hflaw)

/-- The text up to the value of a key that is no field's. -/
def upToOther : List Char :=
  '\x7b' :: joined (([] : List Entry).map Entry.text ++ [noBlanks.text ++
    (written "x" ++ (noBlanks.text ++ ':' :: noBlanks.text))])

theorem places_upToOther : Places upToOther .skipped :=
  .other (List.forall_mem_nil _) (isText_written "x") fun k => by cases k <;> decide

theorem isValue_half : IsValue ['"', '\\', 'u', 'd', '8', '3', '4', '"'] :=
  .string ⟨_, rfl, .mark (p := ['\\', 'u', 'd', '8', '3', '4']) (.numbered (.mk (x := 13) (y := 8)
    (z := 3) (w := 4) (by decide) (by decide) (by decide) (by decide))) .close⟩

theorem parse_by_spelling_clef :
    parse "\x7b\"exports\":\x7b\"memory\":\"𝄞\"\x7d,\"fuel\":7\x7d" = .ok clefConfig ∧
      parse " \x7b \"exports\":\x7b \"memory\": \"\\uD834\\udd1e\"\x7d ,\"fu\\u0065l\" : 7\x7d " =
        .ok clefConfig ∧
      schema.ByKey default clefEntries clefConfig ∧
      ExportNames.schema.ByKey .default [clefNames] clefConfig.exports ∧
      (∀ c, parse "\x7b\"fuel\":7,\"exports\":\x7b\"memory\":\"a\\ud834\"\x7d\x7d" ≠ .ok c) ∧
      parse "\x7b\"x\":\"\\ud834\",\"fuel\":7\x7d" = .ok { fuel := some 7 } := by
  obtain ⟨-, -, hrespelled, hkeys, hnames, hflaw, hskip⟩ := parse_by_spelling
  have hplain : parse "\x7b\"exports\":\x7b\"memory\":\"𝄞\"\x7d,\"fuel\":7\x7d" =
      .ok clefConfig := by decide +kernel
  have htext : spaced noBlanks (enclosed .object noBlanks (clefEntries.map Entry.text)) noBlanks =
      "\x7b\"exports\":\x7b\"memory\":\"𝄞\"\x7d,\"fuel\":7\x7d" := by decide +kernel
  have hspaced := (congrArg parse htext).trans hplain
  have hnl : Loose [clefNames] := List.forall_mem_singleton.2
    ⟨(isText_written "memory").isString, .string (isText_written "𝄞").isString⟩
  have hl : Loose clefEntries := List.forall_mem_cons.2
    ⟨⟨(isText_written "exports").isString, isValue_object hnl⟩, loose_fuel⟩
  refine ⟨hplain, ?_, hkeys _ _ _ _ _ hl hspaced, ?_, ?_, ?_⟩
  · refine Eq.trans (congrArg parse ?_)
      (hrespelled _ _ _ _ hspaced space _ space respelled_clef)
    decide +kernel
  · exact hnames _ _ _ _ hspaced (isValue_object hl) noBlanks [clefNames] hnl
      (.member hl List.mem_cons_self (isText_written "exports"))
  · refine hflaw _ _ _ places_upToMemory flawed_half ⟨noBlanks, ?_⟩
    decide +kernel
  · refine Eq.trans (congrArg parse ?_) (hskip noBlanks upToOther ['n', 'u', 'l', 'l']
      [',', '"', 'f', 'u', 'e', 'l', '"', ':', '7', '\x7d'] _ places_upToOther .null ?_ ?_
      _ isValue_half)
    · decide +kernel
    · rintro c ⟨⟩
      decide
    · decide +kernel

end Config

end HandleBridge
