import HandleBridge.Proofs.Config.Fields

/-
  A configuration survives being written and read.

  The compact form of a configuration is an object with all its fields, so reading it overrides
  every field and nothing of the defaults is left. The only condition is that the numbers fit a
  word (`InRange`); what was read from a text always does.

  Proved:
  * `ExportNames.means_toJson`, `means_toJsonChars`: the two objects are texts for themselves.
  * `inRange_of_parse`: whatever text is accepted, its numbers fit.
  * `parse_toJson`: the round trip, for all configurations and for all accepted texts.
-/

namespace HandleBridge

open Json

namespace ExportNames

theorem toJson_eq (n : ExportNames) : n.toJson = enclosed .object noBlanks
    (schema.keys.map fun k => member (schema.name k) (written (n.get k))) := by
  simp [toJson, schema, Key.all, Key.name, get, enclosed, inside, joined, Bracket.opening,
    Bracket.close]

theorem means_toJson (n : ExportNames) : (schema.record default).Means n.toJson n := by
  rw [toJson_eq]
  exact Schema.means_written (fun k => isText_written (n.get k)) default

end ExportNames

namespace Config

/-- The numbers of a configuration fit a 64-bit word. -/
structure InRange (c : Config) : Prop where
  maxMemoryBytes_le : c.maxMemoryBytes ≤ maxWord
  fuel_le : ∀ n ∈ c.fuel, n ≤ maxWord

/-- The value of a field as it is written. -/
def valueText (c : Config) : Key → List Char
  | .exports => c.exports.toJson
  | .maxMemoryBytes => decimal c.maxMemoryBytes
  | .fuel =>
    match c.fuel with
    | some n => decimal n
    | none => ['n', 'u', 'l', 'l']

theorem toJsonChars_eq (c : Config) : c.toJsonChars = enclosed .object noBlanks
    (schema.keys.map fun k => member (schema.name k) (c.valueText k)) := by
  cases h : c.fuel <;>
    simp [toJsonChars, schema, Key.all, Key.name, valueText, enclosed, inside, joined,
      Bracket.opening, Bracket.close, h]

theorem means_valueText {c : Config} (hc : c.InRange) (k : Key) :
    (schema.kind k).Means (c.valueText k) (c.get k) := by
  cases k with
  | exports => exact c.exports.means_toJson
  | maxMemoryBytes => exact ⟨rfl, hc.maxMemoryBytes_le⟩
  | fuel =>
    have hf := hc.fuel_le
    show Kind.wordOrNull.Means (c.valueText .fuel) c.fuel
    unfold valueText
    generalize c.fuel = fuel at hf
    cases fuel with
    | none => exact .inl ⟨rfl, rfl⟩
    | some n => exact .inr ⟨n, rfl, rfl, hf n rfl⟩

theorem means_toJsonChars {c : Config} (hc : c.InRange) :
    (schema.record default).Means c.toJsonChars c := by
  rw [toJsonChars_eq]
  exact Schema.means_written (means_valueText hc) default

theorem parse_toJson_of_inRange {c : Config} (hc : c.InRange) : parse c.toJson = .ok c := by
  have h := parse_of_means (means_toJsonChars hc) noBlanks noBlanks
  rwa [noBlanks, List.nil_append, List.append_nil] at h

/-! ## What is read fits -/

theorem inRange_default : default.InRange where
  maxMemoryBytes_le := by decide
  fuel_le n hn := nomatch hn

theorem inRange_of_parse {text : String} {c : Config} (h : parse text = .ok c) : c.InRange := by
  unfold parse readWhole at h
  split at h
  · cases h
  · rename_i a rest hr
    split at h
    · cases h
      refine readRecord_induction ?_ inRange_default hr
      intro field hf cs set rest hv s hs
      simp only [fields, List.mem_cons, List.not_mem_nil, or_false] at hf
      rcases hf with rfl | rfl | rfl
      · obtain ⟨names, -, rfl⟩ := Field.exists_of_run_ok hv
        exact ⟨hs.maxMemoryBytes_le, hs.fuel_le⟩
      · obtain ⟨n, hn, rfl⟩ := Field.exists_of_run_ok hv
        exact ⟨readWord_le hn, hs.fuel_le⟩
      · obtain ⟨fuel, hn, rfl⟩ := Field.exists_of_run_ok hv
        exact ⟨hs.maxMemoryBytes_le, readWordOrNull_le hn⟩
    · cases h

/-- A configuration is read back from its compact form. So what was accepted once is accepted
again in that form, as the same configuration, and written the same way. -/
theorem parse_toJson :
    (∀ c : Config, c.InRange → parse c.toJson = .ok c) ∧
      ∀ (text : String) (c : Config), parse text = .ok c →
        parse c.toJson = .ok c ∧ (parse c.toJson).map toJson = .ok c.toJson := by
  refine ⟨fun c hc => parse_toJson_of_inRange hc, fun text c h => ?_⟩
  have hc := parse_toJson_of_inRange (inRange_of_parse h)
  refine ⟨hc, ?_⟩
  rw [hc]
  rfl

/-- Names with a quote, a backslash, controls, U+007F and characters beyond U+FFFF, the largest
word, and zero. -/
theorem parse_toJson_awkward :
    let c : Config := { exports := { ExportNames.default with memory := "a\"\\\n\x01\x7fé𝄞" },
                        maxMemoryBytes := 18446744073709551615, fuel := some 0 }
    c.InRange ∧ parse c.toJson = .ok c ∧ (parse c.toJson).map toJson = .ok c.toJson := by
  intro c
  have hc : c.InRange := ⟨by decide, by decide⟩
  exact ⟨hc, parse_toJson.2 c.toJson c (parse_toJson.1 c hc)⟩

end Config

end HandleBridge
