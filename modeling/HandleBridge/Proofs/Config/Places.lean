import HandleBridge.Proofs.Config.Fields
import HandleBridge.Proofs.Json.Paths

/-
  The texts of configurations, and the places in them.

  The fields of both records are exact and come to their places. What is accepted is then a text
  that the schema gives its meaning, with blanks around it, and nothing else is (`parse_eq_ok_iff`).
  The places of a configuration are those of its keys, of the values that nobody asks for, and of
  the export names.

  Proved:
  * `ExportNames.tracedBy`, `Config.tracedBy`: the fields of the readers trace those of the schemas.
  * `parse_eq_ok_iff`: the accepted texts.
  * `awaits_place`: the parser comes to every place of a text that it accepts.
-/

namespace HandleBridge

open Json

namespace ExportNames

/-- The places in the names. -/
def Places : List Char → Due → Prop := schema.Reaches fun _ => textPlaces

theorem tracedField (k : Key) {put : String → ExportNames → ExportNames}
    (hp : ∀ v s, put v s = schema.set ⟨k, v⟩ s) :
    schema.TracedField (fun _ => textPlaces) k (.of k.name textReader put) :=
  Schema.tracedField_of textReader_reads textReader_exact textReader_traces hp

/-- What holds of each name as a field holds of the fields. -/
theorem forall₂_fields {R : Key → Json.Field ExportNames → Prop}
    (h : ∀ (k : Key) {put : String → ExportNames → ExportNames},
      (∀ v s, put v s = schema.set ⟨k, v⟩ s) → R k (.of k.name textReader put)) :
    List.Forall₂ R schema.keys fields :=
  .cons (h .memory fun _ _ => rfl) <| .cons (h .create fun _ _ => rfl) <|
  .cons (h .ptr fun _ _ => rfl) <| .cons (h .len fun _ _ => rfl) <|
  .cons (h .reserve fun _ _ => rfl) <| .cons (h .destroy fun _ _ => rfl) .nil

theorem tracedBy : schema.TracedBy (fun _ => textPlaces) fields := forall₂_fields tracedField

theorem valued : schema.Valued := fun _ => text_valued

theorem reader_exact : reader.Exact (schema.record default) :=
  Schema.recordReader_exact "struct ExportNames" tracedBy.exactBy valued default

theorem reader_traces : reader.Traces Places :=
  Schema.recordReader_traces "struct ExportNames" tracedBy default

end ExportNames

namespace Config

/-- The places in the value of a field. -/
def fieldPlaces : Key → List Char → Due → Prop
  | .exports => ExportNames.Places
  | .maxMemoryBytes => noPlaces
  | .fuel => noPlaces

/-- The places in a configuration. -/
def Places : List Char → Due → Prop := schema.Reaches fieldPlaces

theorem tracedBy : schema.TracedBy fieldPlaces fields :=
  .cons (Schema.tracedField_of ExportNames.reader_reads ExportNames.reader_exact
    ExportNames.reader_traces fun _ _ => rfl) <|
  .cons (Schema.tracedField_of (wordReader_reads "usize") (wordReader_exact "usize")
    (traces_nothing _) fun _ _ => rfl) <|
  .cons (Schema.tracedField_of (wordOrNullReader_reads "u64") (wordOrNullReader_exact "u64")
    (traces_nothing _) fun _ _ => rfl) .nil

theorem valued : schema.Valued := by
  intro k
  cases k with
  | exports => exact Schema.record_valued ExportNames.valued .default
  | maxMemoryBytes => exact word_valued
  | fuel => exact wordOrNull_valued

theorem reader_exact : reader.Exact (schema.record default) :=
  Schema.recordReader_exact "struct RuntimeConfig" tracedBy.exactBy valued default

theorem reader_traces : reader.Traces Places :=
  Schema.recordReader_traces "struct RuntimeConfig" tracedBy default

/-! ## Whole texts -/

variable {text : String} {c : Config} {u : List Char} {d : Due}

theorem parse_eq_ok : parse text = .ok c ↔
    ∃ rest, reader.run text.toList = .ok (c, rest) ∧ skipBlanks rest = [] := by
  unfold parse readWhole
  constructor
  · intro h
    split at h
    · cases h
    · rename_i a rest hr
      split at h
      · rename_i hb
        cases h
        exact ⟨rest, hr, hb⟩
      · cases h
  · rintro ⟨rest, hr, hb⟩
    rw [hr]
    exact if_pos hb

theorem skipBlanks_eq_nil {cs : List Char} :
    skipBlanks cs = [] ↔ ∀ ch ∈ cs, isBlank ch = true := List.dropWhile_eq_nil_iff

/-- The accepted texts are those that the schema gives a meaning, with blanks around them. -/
theorem parse_eq_ok_iff : parse text = .ok c ↔
    ∃ (before : Blanks) (cs : List Char) (after : Blanks),
      text.toList = before.text ++ (cs ++ after.text) ∧ (schema.record default).Means cs c := by
  constructor
  · intro h
    obtain ⟨rest, hr, hb⟩ := parse_eq_ok.1 h
    obtain ⟨⟨before, cs, he, hm⟩, -⟩ := reader_exact hr
    exact ⟨before, cs, ⟨rest, skipBlanks_eq_nil.1 hb⟩, he, hm⟩
  · rintro ⟨before, cs, after, he, hm⟩
    rw [← parse_of_means hm before after, ← he, String.ofList_toList]

theorem parse_of_run_error {problem : Problem} (h : reader.run text.toList = .error problem) :
    parse text = .error problem := by
  unfold parse readWhole
  rw [h]

/-- The parser comes to every place of a text that it accepts. -/
theorem comes_of_parse (hu : Places u d) {before : Blanks} {w : List Char}
    (ht : text.toList = before.text ++ (u ++ w)) (h : parse text = .ok c) :
    Comes reader.run (before.text ++ u) d := by
  rcases reader_traces.awaits hu before with hf | hc
  · obtain ⟨p, hp⟩ := hf w
    rw [List.append_assoc, ← ht] at hp
    rw [parse_of_run_error hp] at h
    cases h
  · exact hc

end Config

end HandleBridge
