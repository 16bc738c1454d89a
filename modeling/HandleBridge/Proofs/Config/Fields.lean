import HandleBridge.Config
import HandleBridge.Proofs.Json.Records

/-
  A configuration by its fields.

  The configuration and the export names in it are two records under the same rules
  (`ExportNames.schema`, `Config.schema`). What a text does not mention keeps its default, what it
  mentions under no known key is passed over, and a known key may not come twice.

  Proved:
  * `ExportNames.readBy`, `Config.readBy`: the fields of the readers are those of the schemas.
  * `parse_by_fields`: objects, arrays and repeated keys, for every text.
-/

namespace HandleBridge

open Json

namespace ExportNames

/-- A field of the names. -/
inductive Key where
  | memory
  | create
  | ptr
  | len
  | reserve
  | destroy
deriving DecidableEq

namespace Key

def all : List Key := [memory, create, ptr, len, reserve, destroy]

def name : Key → String
  | memory => "memory"
  | create => "create"
  | ptr => "ptr"
  | len => "len"
  | reserve => "reserve"
  | destroy => "destroy"

theorem name_injective : Function.Injective name := by
  intro k k' h
  cases k <;> cases k' <;> first | rfl | exact absurd h (by decide)

end Key

def get (n : ExportNames) : Key → String
  | .memory => n.memory
  | .create => n.create
  | .ptr => n.ptr
  | .len => n.len
  | .reserve => n.reserve
  | .destroy => n.destroy

def schema : Schema ExportNames where
  Key := Key
  keys := Key.all
  mem_keys k := by cases k <;> decide
  nodup_keys := by decide
  name := Key.name
  name_injective := Key.name_injective
  Value _ := String
  kind _ := Kind.text
  get := get
  build f := ⟨f .memory, f .create, f .ptr, f .len, f .reserve, f .destroy⟩
  get_build f := by
    funext k
    cases k <;> rfl
  build_get _ := rfl

theorem readBy : schema.ReadBy fields :=
  .cons (Schema.readsField_of textReader_reads fun _ _ => rfl) <|
  .cons (Schema.readsField_of textReader_reads fun _ _ => rfl) <|
  .cons (Schema.readsField_of textReader_reads fun _ _ => rfl) <|
  .cons (Schema.readsField_of textReader_reads fun _ _ => rfl) <|
  .cons (Schema.readsField_of textReader_reads fun _ _ => rfl) <|
  .cons (Schema.readsField_of textReader_reads fun _ _ => rfl) .nil

theorem reader_reads : reader.Reads (schema.record default) :=
  recordReader_reads "struct ExportNames" readBy default

end ExportNames

namespace Config

/-- A field of the configuration. -/
inductive Key where
  | exports
  | maxMemoryBytes
  | fuel
deriving DecidableEq

namespace Key

def all : List Key := [exports, maxMemoryBytes, fuel]

def name : Key → String
  | exports => "exports"
  | maxMemoryBytes => "max_memory_bytes"
  | fuel => "fuel"

theorem name_injective : Function.Injective name := by
  intro k k' h
  cases k <;> cases k' <;> first | rfl | exact absurd h (by decide)

/-- The type of a field. -/
abbrev Value : Key → Type
  | exports => ExportNames
  | maxMemoryBytes => Nat
  | fuel => Option Nat

/-- The export names start from their own defaults. -/
def kind : (k : Key) → Kind k.Value
  | exports => ExportNames.schema.record .default
  | maxMemoryBytes => Kind.word
  | fuel => Kind.wordOrNull

end Key

def get (c : Config) : (k : Key) → k.Value
  | .exports => c.exports
  | .maxMemoryBytes => c.maxMemoryBytes
  | .fuel => c.fuel

def schema : Schema Config where
  Key := Key
  keys := Key.all
  mem_keys k := by cases k <;> decide
  nodup_keys := by decide
  name := Key.name
  name_injective := Key.name_injective
  Value := Key.Value
  kind := Key.kind
  get := get
  build f := ⟨f .exports, f .maxMemoryBytes, f .fuel⟩
  get_build f := by
    funext k
    cases k <;> rfl
  build_get _ := rfl

theorem readBy : schema.ReadBy fields :=
  .cons (Schema.readsField_of ExportNames.reader_reads fun _ _ => rfl) <|
  .cons (Schema.readsField_of (wordReader_reads "usize") fun _ _ => rfl) <|
  .cons (Schema.readsField_of (wordOrNullReader_reads "u64") fun _ _ => rfl) .nil

theorem reader_reads : reader.Reads (schema.record default) :=
  recordReader_reads "struct RuntimeConfig" readBy default

theorem parse_of_means {cs : List Char} {c : Config} (h : (schema.record default).Means cs c)
    (before after : Blanks) :
    parse (String.ofList (before.text ++ (cs ++ after.text))) = .ok c := by
  unfold parse readWhole
  rw [String.toList_ofList, reader_reads.read h before after.text (endsNumber_of_blanks after)]
  exact if_pos (skipBlanks_blanks after)

theorem parse_of_repeats {cs : List Char} {key : String} (h : schema.Repeats cs key)
    (before : Blanks) (rest : List Char) :
    parse (String.ofList (before.text ++ (cs ++ rest))) = .error (.mismatch (.duplicate key)) := by
  unfold parse readWhole
  rw [String.toList_ofList, reader_reads.refuse h before rest]

/-- A configuration is the default with the fields that the text gives, each by its key or by its
place; and a key that comes a second time ends the reading, whatever stands behind it. -/
theorem parse_by_fields (before after : Blanks) :
    (∀ cs items items', schema.IsObject cs items → items.NodupKeys → items.Perm items' →
        parse (String.ofList (before.text ++ (cs ++ after.text))) =
          .ok (schema.override default items')) ∧
      (∀ cs items, schema.IsArray cs items →
        parse (String.ofList (before.text ++ (cs ++ after.text))) =
          .ok (schema.override default items)) ∧
      ∀ cs key rest, schema.Repeats cs key →
        parse (String.ofList (before.text ++ (cs ++ rest))) =
          .error (.mismatch (.duplicate key)) := by
  refine ⟨fun cs items items' ho hn hp => ?_, fun cs items ha => ?_, fun cs key rest h => ?_⟩
  · rw [← Schema.override_perm hn hp]
    exact parse_of_means ⟨items, rfl, .inl ⟨ho, hn⟩⟩ before after
  · exact parse_of_means ⟨items, rfl, .inr ha⟩ before after
  · exact parse_of_repeats h before rest

/-! ## Texts of each sort -/

def space : Blanks := ⟨[' '], List.forall_mem_singleton.2 rfl⟩

/-- A member for the fuel, with an escape in the key. -/
def escapedFuel : Entry :=
  ⟨⟨space, ['7'], noBlanks⟩, noBlanks, ['"', 'f', 'u', '\\', 'u', '0', '0', '6', '5', 'l', '"'],
    space⟩

theorem known_escapedFuel : schema.Known escapedFuel ⟨.fuel, some 7⟩ where
  spelled := ⟨_, rfl, .char (p := ['f']) (.plain (by decide) (by decide) (by decide)) <|
    .char (p := ['u']) (.plain (by decide) (by decide) (by decide)) <|
    .char (p := ['\\', 'u', '0', '0', '6', '5']) (c := 'e')
      (.numbered (n := 0x65) (.mk (x := 0) (y := 0) (z := 6) (w := 5) (by decide) (by decide)
        (by decide) (by decide)) (by decide) (by decide)) <|
    .char (p := ['l']) (.plain (by decide) (by decide) (by decide)) .close⟩
  means := .inr ⟨7, rfl, rfl, by decide⟩

/-- A member with a key that is no text, and a number that is out of range. -/
def oddEntry : Entry :=
  ⟨⟨noBlanks, ['1', 'e', '9', '9'], noBlanks⟩, noBlanks,
    ['"', '\\', 'u', 'd', '8', '0', '0', '"'], noBlanks⟩

theorem isValue_oddEntry : IsValue (enclosed .object noBlanks [oddEntry.text]) := by
  refine .object noBlanks [oddEntry] (fun e he => ?_) fun e he => ?_
  all_goals obtain rfl := List.mem_singleton.1 he
  · exact ⟨_, rfl, .mark (p := ['\\', 'u', 'd', '8', '0', '0']) (.numbered (.mk (x := 13) (y := 8)
      (z := 0) (w := 0) (by decide) (by decide) (by decide) (by decide))) .close⟩
  · show IsValue ([] ++ (['1'] ++ ([] ++ 'e' :: ([] ++ ['9', '9']))))
    exact .number (.mk (.inl rfl) (.digits (by decide) (digits_digit (by decide))) .none
      (.some (.inl rfl) (.inl rfl) ((digits_digit (by decide)).cons (by decide))))

/-- The names as an array of one. -/
def oneName : List Char := enclosed .list noBlanks [written "m"]

def names : ExportNames := { ExportNames.default with memory := "m" }

theorem means_oneName : (ExportNames.schema.record .default).Means oneName names :=
  ⟨[⟨.memory, "m"⟩], rfl, .inr ⟨⟨noBlanks, [⟨noBlanks, written "m", noBlanks⟩], rfl,
    .cons (isText_written "m") .nil⟩, by decide⟩⟩

theorem other_oddEntry : schema.Other
    (Entry.written "x" (enclosed .object noBlanks [oddEntry.text])) "x" where
  spelled := isText_written "x"
  unknown k := by cases k <;> decide
  value := isValue_oddEntry

theorem known_exports : schema.Known (Entry.written "exports" oneName) ⟨.exports, names⟩ where
  spelled := isText_written "exports"
  means := means_oneName

theorem isObject_loose : schema.IsObject
    (enclosed .object noBlanks ([escapedFuel, Entry.written "x" (enclosed .object noBlanks
      [oddEntry.text]), Entry.written "exports" oneName].map Entry.text))
    [⟨.fuel, some 7⟩, ⟨.exports, names⟩] :=
  ⟨noBlanks, _, rfl, .known known_escapedFuel <| .other other_oddEntry <| .known known_exports .nil⟩

theorem isArray_short : schema.IsArray
    (enclosed .list noBlanks ([⟨noBlanks, oneName, noBlanks⟩, ⟨space, ['5'], noBlanks⟩].map
      Element.text)) [⟨.exports, names⟩, ⟨.maxMemoryBytes, (5 : Nat)⟩] :=
  ⟨⟨noBlanks, _, rfl, .cons means_oneName <| .cons ⟨rfl, by decide⟩ .nil⟩, by decide⟩

/-- Names with a pointer, and its key again. -/
def pointerAgain : List Char :=
  '\x7b' :: joined ([Entry.written "ptr" (written "p")].map Entry.text ++
    [space.text ++ written "ptr"])

theorem repeats_pointerAgain : ExportNames.schema.Repeats pointerAgain "ptr" := by
  have hk : ExportNames.schema.Known (Entry.written "ptr" (written "p")) ⟨.ptr, "p"⟩ :=
    ⟨isText_written "ptr", isText_written "p"⟩
  exact .here (.known hk .nil) (by unfold List.NodupKeys; decide) List.mem_cons_self
    (isText_written "ptr")

theorem repeats_exports : schema.Repeats ('\x7b' :: joined (([] : List Entry).map Entry.text ++
    [noBlanks.text ++ (written "exports" ++
      (noBlanks.text ++ ':' :: (noBlanks.text ++ pointerAgain)))])) "ptr" :=
  .member .nil .nil List.not_mem_nil (isText_written (schema.name Key.exports))
    repeats_pointerAgain

theorem parse_by_fields_loose :
    parse "\x7b\"fu\\u0065l\" : 7,\"x\":\x7b\"\\ud800\":1e99\x7d,\"exports\":[\"m\"]\x7d" =
        .ok { exports := names, fuel := some 7 } ∧
      parse "[[\"m\"], 5]" = .ok { exports := names, maxMemoryBytes := 5 } ∧
      parse "\x7b\"exports\":\x7b\"ptr\":\"p\", \"ptr\" or not" =
        .error (.mismatch (.duplicate "ptr")) := by
  obtain ⟨hobject, harray, hagain⟩ := parse_by_fields noBlanks noBlanks
  -- Each text is the one that its grammar builds, a comparison of characters.
  refine ⟨?_, ?_, ?_⟩
  · have hn : List.NodupKeys [⟨Key.fuel, some 7⟩, (⟨.exports, names⟩ : Sigma schema.Value)] := by
      unfold List.NodupKeys
      decide
    refine Eq.trans (congrArg parse ?_) (hobject _ _ _ isObject_loose hn (.refl _))
    decide +kernel
  · refine Eq.trans (congrArg parse ?_) (harray _ _ isArray_short)
    decide +kernel
  · refine Eq.trans (congrArg parse ?_)
      (hagain _ _ [' ', 'o', 'r', ' ', 'n', 'o', 't'] repeats_exports)
    decide +kernel

end Config

end HandleBridge
