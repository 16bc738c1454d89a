import HandleBridge.Proofs.Json.Crossing
import HandleBridge.Proofs.Json.Schema

/-
  Reading records.

  A reader of records whose fields are those of a schema reads what the schema says. One entry of
  an object, or one element of an array, changes the record by what it says, whatever the text
  goes on with; so do any number of them, by induction.

  Proved:
  * `readMembers_entries`, `readElements_items`: what the first pieces of a text make of a record.
  * `readRecord_isObject`, `readRecord_isArray`, `readRecord_repeats`: objects, arrays, and texts
    that come to a key again.
  * `recordReader_reads`: a record reader reads the texts of its schema.
  * `readRecord_induction`: what holds of the defaults and is kept by every field holds of
    whatever record is read.
-/

namespace HandleBridge.Json

/-! ## Single values -/

/-- The reader answers what a text of the kind says, wherever the text may stand, and stops at a
key that is repeated, however the text goes on. -/
structure Reader.Reads {α : Type} (r : Reader α) (kind : Kind α) : Prop where
  read : ∀ {cs a}, kind.Means cs a → ∀ (b : Blanks) rest, EndsNumber rest →
    r.run (b.text ++ (cs ++ rest)) = .ok (a, rest)
  refuse : ∀ {cs key}, kind.Repeats cs key → ∀ (b : Blanks) rest,
    r.run (b.text ++ (cs ++ rest)) = .error (.mismatch (.duplicate key))

theorem textReader_reads : textReader.Reads Kind.text where
  read h b rest _ := readText_isText h b rest
  refuse := False.elim

theorem readWord_blanks (expected : String) (b : Blanks) (cs : List Char) :
    readWord expected (b.text ++ cs) = readWord expected cs := by
  simp only [readWord, skipBlanks_append]

theorem readWordOrNull_blanks (expected : String) (b : Blanks) (cs : List Char) :
    readWordOrNull expected (b.text ++ cs) = readWordOrNull expected cs := by
  simp only [readWordOrNull, skipBlanks_append]

theorem wordReader_reads (expected : String) : (wordReader expected).Reads Kind.word where
  read := by
    rintro cs n ⟨rfl, hn⟩ b rest hr
    exact (readWord_blanks expected b _).trans (readWord_toDigits expected hn hr)
  refuse := False.elim

theorem wordOrNullReader_reads (expected : String) :
    (wordOrNullReader expected).Reads Kind.wordOrNull where
  read := by
    rintro cs v (⟨rfl, rfl⟩ | ⟨n, rfl, rfl, hn⟩) b rest hr
    · exact (readWordOrNull_blanks expected b _).trans (readWordOrNull_null expected rest)
    · exact (readWordOrNull_blanks expected b _).trans (readWordOrNull_toDigits expected hn hr)
  refuse := False.elim

section Steps

variable {S : Type} {fields : List (Field S)} {seen : List String} {acc : S} {first : Bool}

/-! ## Single steps -/

theorem readMembers_end {cs rest : List Char} (hk : nextKey first cs = .ok (false, rest)) :
    readMembers fields seen first acc cs = .ok (acc, rest) := by
  rw [readMembers]
  split <;> rename_i h <;> rw [hk] at h <;> cases h
  rfl

/-- What reading makes of a member, given its key. -/
theorem readMembers_of_key {cs rest rest₁ : List Char} {key : String}
    (hk : nextKey first cs = .ok (true, rest)) (hs : readString rest = .ok (key, rest₁)) :
    readMembers fields seen first acc cs =
      match fields.find? (·.key == key) with
      | some field =>
        if key ∈ seen then .error (.mismatch (.duplicate key))
        else
          match expectColon rest₁ with
          | .error p => .error p
          | .ok rest₂ =>
            match field.reader.run rest₂ with
            | .error p => .error p
            | .ok (set, rest₃) => readMembers fields (key :: seen) false (set acc) rest₃
      | none =>
        match expectColon rest₁ with
        | .error p => .error p
        | .ok rest₂ =>
          match skipValue rest₂ with
          | .error p => .error p
          | .ok rest₃ => readMembers fields seen false acc rest₃ := by
  rw [readMembers]
  split <;> rename_i h <;> rw [hk] at h <;> cases h
  split <;> rename_i h <;> rw [hs] at h <;> cases h
  simp only [List.contains_iff_mem]
  cases fields.find? (·.key == key) with
  | none =>
    dsimp only
    split <;> rename_i h <;> simp only [h]
    split <;> rename_i h <;> simp only [h]
  | some field =>
    dsimp only
    split
    · rfl
    split <;> rename_i h <;> simp only [h]
    split <;> rename_i h <;> simp only [h]

theorem Field.of_run_ok {α : Type} {key : String} {r : Reader α} {put : α → S → S}
    {cs rest : List Char} {a : α} (h : r.run cs = .ok (a, rest)) :
    (Field.of key r put).reader.run cs = .ok (put a, rest) := by
  simp only [Field.of, h]

theorem Field.of_run_error {α : Type} {key : String} {r : Reader α} {put : α → S → S}
    {cs : List Char} {p : Problem} (h : r.run cs = .error p) :
    (Field.of key r put).reader.run cs = .error p := by
  simp only [Field.of, h]

theorem Field.exists_of_run_ok {α : Type} {key : String} {r : Reader α} {put : α → S → S}
    {cs rest : List Char} {set : S → S}
    (h : (Field.of key r put).reader.run cs = .ok (set, rest)) :
    ∃ a, r.run cs = .ok (a, rest) ∧ set = put a := by
  simp only [Field.of] at h
  split at h
  · cases h
  · rename_i a rest' hr
    cases h
    exact ⟨a, hr, rfl⟩

/-! ## What a record keeps -/

theorem toNumber_le {n : Numeral} {v : Nat} (h : n.toNumber = .ok (.natural v)) : v ≤ maxWord := by
  unfold Numeral.toNumber at h
  dsimp only at h
  split at h
  · rename_i hv
    cases h
    simp only [Bool.and_eq_true, decide_eq_true_eq] at hv
    exact hv.2
  · split at h
    · cases h
    · split at h <;> cases h

theorem readWord_le {expected : String} {cs rest : List Char} {n : Nat}
    (h : readWord expected cs = .ok (n, rest)) : n ≤ maxWord := by
  unfold readWord at h
  split at h
  · cases h
  split at h
  · split at h
    · cases h
    split at h
    · cases h
    · rename_i hv
      cases h
      exact toNumber_le hv
    · cases h
    · cases h
  · cases h

theorem readWordOrNull_le {expected : String} {cs rest : List Char} {n : Option Nat}
    (h : readWordOrNull expected cs = .ok (n, rest)) : ∀ v ∈ n, v ≤ maxWord := by
  unfold readWordOrNull at h
  split at h
  · cases h
  split at h
  · split at h
    · cases h
    · cases h
      intro v hv
      cases hv
  · split at h
    · cases h
    · rename_i hw
      cases h
      intro v hv
      cases hv
      exact readWord_le hw

/-- What every field keeps when it is set. -/
def KeptBy (fields : List (Field S)) (P : S → Prop) : Prop :=
  ∀ field ∈ fields, ∀ {cs set rest}, field.reader.run cs = .ok (set, rest) → ∀ s, P s → P (set s)

theorem readMembers_induction {P : S → Prop} (hf : KeptBy fields P) {cs rest : List Char} {a : S}
    (h : readMembers fields seen first acc cs = .ok (a, rest)) (hp : P acc) : P a := by
  fun_induction readMembers fields seen first acc cs with
  | case2 =>
    cases h
    exact hp
  | case7 =>
    rename_i field hm _ _ _ _ _ hv _ _ _ _ ih
    exact ih h (hf field (List.mem_of_find?_eq_some hm) hv _ hp)
  | case10 =>
    rename_i ih
    exact ih h hp
  | _ => cases h

theorem readElements_induction {P : S → Prop} (hf : KeptBy fields P) {cs rest : List Char} {a : S}
    (h : readElements fields first acc cs = .ok (a, rest)) (hp : P acc) : P a := by
  induction fields generalizing first acc cs with
  | nil =>
    cases h
    exact hp
  | cons field fields ih =>
    unfold readElements at h
    split at h
    · cases h
    · cases h
      exact hp
    · split at h
      · cases h
      · rename_i hv
        exact ih (fun g hg => hf g (List.mem_cons_of_mem field hg)) h
          (hf field List.mem_cons_self hv acc hp)

/-- What the defaults have and every field keeps, the record that is read has. -/
theorem readRecord_induction {P : S → Prop} (hf : KeptBy fields P) {defaults a : S}
    (hd : P defaults) {expected : String} {cs rest : List Char}
    (h : readRecord expected fields defaults cs = .ok (a, rest)) : P a := by
  unfold readRecord at h
  split at h
  · cases h
  split at h
  · split at h
    · cases h
    · rename_i he
      split at h <;> cases h
      exact readElements_induction hf he hd
  · split at h
    · exact readMembers_induction hf h hd
    · cases h

end Steps

namespace Schema

variable {S : Type} {sch : Schema S} {items : sch.Items} {i : Sigma sch.Value}

/-! ## The fields of a schema -/

/-- The record with one field set. -/
def set (sch : Schema S) (i : Sigma sch.Value) (s : S) : S := sch.override s [i]

/-- The field is that of the key, and reads its values. -/
structure ReadsField (sch : Schema S) (k : sch.Key) (f : Field S) : Prop where
  key_eq : f.key = sch.name k
  read : ∀ {cs v}, (sch.kind k).Means cs v → ∀ (b : Blanks) rest, EndsNumber rest →
    f.reader.run (b.text ++ (cs ++ rest)) = .ok (sch.set ⟨k, v⟩, rest)
  refuse : ∀ {cs key}, (sch.kind k).Repeats cs key → ∀ (b : Blanks) rest,
    f.reader.run (b.text ++ (cs ++ rest)) = .error (.mismatch (.duplicate key))

theorem readsField_of {k : sch.Key} {r : Reader (sch.Value k)} (hr : r.Reads (sch.kind k))
    {put : sch.Value k → S → S} (hp : ∀ v s, put v s = sch.set ⟨k, v⟩ s) :
    sch.ReadsField k (.of (sch.name k) r put) where
  key_eq := rfl
  read := by
    intro cs v h b rest he
    rw [Field.of_run_ok (hr.read h b rest he), funext (hp v)]
  refuse h b rest := Field.of_run_error (hr.refuse h b rest)

/-- The fields of the schema, in its order. -/
def ReadBy (sch : Schema S) (fields : List (Field S)) : Prop :=
  List.Forall₂ sch.ReadsField sch.keys fields

variable {fields : List (Field S)} {key : String} {k : sch.Key}

theorem exists_find_of {R : sch.Key → Field S → Prop} {keys : List sch.Key}
    (hR : ∀ {k f}, R k f → f.key = sch.name k) (hf : List.Forall₂ R keys fields) (hk : k ∈ keys) :
    ∃ f, fields.find? (·.key == sch.name k) = some f ∧ R k f := by
  induction hf with
  | nil => cases hk
  | @cons k' f keys fields hkf _ ih =>
    by_cases he : k' = k
    · subst he
      refine ⟨f, ?_, hkf⟩
      rw [List.find?_cons, hR hkf, beq_self_eq_true]
    · obtain ⟨g, hg, hr⟩ := ih ((List.mem_cons.1 hk).resolve_left (Ne.symm he))
      refine ⟨g, ?_, hr⟩
      rw [List.find?_cons, hR hkf, beq_false_of_ne fun e => he (sch.name_injective e), hg]

theorem exists_find {keys : List sch.Key} (hf : List.Forall₂ sch.ReadsField keys fields)
    (hk : k ∈ keys) :
    ∃ f, fields.find? (·.key == sch.name k) = some f ∧ sch.ReadsField k f :=
  exists_find_of (fun h => h.key_eq) hf hk

theorem find_eq_none {keys : List sch.Key} (hf : List.Forall₂ sch.ReadsField keys fields)
    (hk : ∀ k, sch.name k ≠ key) : fields.find? (·.key == key) = none := by
  induction hf with
  | nil => rfl
  | @cons k' f keys fields hkf _ ih =>
    rw [List.find?_cons, hkf.key_eq, beq_false_of_ne (hk k'), ih]

/-! ## Members of an object -/

/-- The pieces that follow: the first one stands behind a comma unless it opens the text. -/
def following (first : Bool) (ps : List (List Char)) : List Char :=
  if first then joined ps else ps.flatMap (',' :: ·)

theorem following_nil (first : Bool) : following first [] = [] := by
  cases first <;> rfl

theorem inside_eq (b : Blanks) (ps : List (List Char)) :
    ∃ b' : Blanks, inside b ps = b'.text ++ following true ps := by
  cases ps with
  | nil => exact ⟨b, (List.append_nil b.text).symm⟩
  | cons p ps => exact ⟨noBlanks, rfl⟩

variable {first : Bool} {ps : List (List Char)} {cs rest : List Char}

theorem nextKey_following (first : Bool) (b b' : Blanks) (cs : List Char) :
    nextKey first (b.text ++ (following first ((b'.text ++ '"' :: cs) :: ps) ++ rest)) =
      .ok (true, cs ++ (following false ps ++ rest)) := by
  cases first with
  | true =>
    show nextKey true (b.text ++ (b'.text ++ '"' :: cs ++ following false ps ++ rest)) = _
    unfold nextKey
    rw [skipBlanks_append, List.append_assoc, List.append_assoc, List.cons_append,
      (starts_quote _).skipBlanks_eq b']
    rfl
  | false =>
    have hc : skipBlanks (b.text ++ (following false ((b'.text ++ '"' :: cs) :: ps) ++ rest)) =
        ',' :: (b'.text ++ '"' :: (cs ++ (following false ps ++ rest))) := by
      rw [skipBlanks_append]
      show skipBlanks (',' :: (b'.text ++ '"' :: cs) ++ following false ps ++ rest) = _
      simp only [List.cons_append, List.append_assoc]
      exact skipBlanks_of_not_blank (by decide) _
    unfold nextKey
    rw [hc]
    simp only [(starts_quote _).skipBlanks_eq b']
    rfl

theorem expectColon_blanks (b : Blanks) (cs : List Char) :
    expectColon (b.text ++ ':' :: cs) = .ok cs := by
  unfold expectColon
  rw [skipBlanks_append, skipBlanks_of_not_blank (by decide)]
  rfl

variable {seen : List String} {acc : S} {e : Entry} {es : List Entry}

/-- What reading makes of a key and the colon behind it. -/
theorem readMembers_following {value : List Char} (hk : IsText cs key) (b b₁ b₂ b₃ : Blanks) :
    readMembers fields seen first acc (b.text ++ (following first
        ((b₁.text ++ (cs ++ (b₂.text ++ ':' :: (b₃.text ++ value)))) :: ps) ++ rest)) =
      match fields.find? (·.key == key) with
      | some field =>
        if key ∈ seen then .error (.mismatch (.duplicate key))
        else
          match field.reader.run (b₃.text ++ (value ++ (following false ps ++ rest))) with
          | .error p => .error p
          | .ok (set, rest₃) => readMembers fields (key :: seen) false (set acc) rest₃
      | none =>
        match skipValue (b₃.text ++ (value ++ (following false ps ++ rest))) with
        | .error p => .error p
        | .ok rest₃ => readMembers fields seen false acc rest₃ := by
  obtain ⟨body, rfl, hs⟩ := hk
  rw [List.cons_append, readMembers_of_key (nextKey_following first b b₁ _)
    (by rw [List.append_assoc]; exact readString_spells hs _)]
  simp only [List.append_assoc, List.cons_append, expectColon_blanks]

theorem readMembers_known {i : Sigma sch.Value} (hf : sch.ReadBy fields) (he : sch.Known e i)
    (hs : sch.name i.1 ∉ seen) (hr : EndsNumber (following false ps ++ rest)) (b : Blanks) :
    readMembers fields seen first acc (b.text ++ (following first (e.text :: ps) ++ rest)) =
      readMembers fields (sch.name i.1 :: seen) false (sch.set i acc)
        (e.after.text ++ (following false ps ++ rest)) := by
  obtain ⟨f, hfind, hread⟩ := exists_find hf (sch.mem_keys i.1)
  have hv := hread.read he.means e.before _ (endsNumber_blanks e.after hr)
  rw [Entry.text, Element.text, readMembers_following he.spelled, hfind]
  simp only [if_neg hs, List.append_assoc, hv]

theorem readMembers_other (hf : sch.ReadBy fields) (he : sch.Other e key)
    (hr : EndsNumber (following false ps ++ rest)) (b : Blanks) :
    readMembers fields seen first acc (b.text ++ (following first (e.text :: ps) ++ rest)) =
      readMembers fields seen false acc (e.after.text ++ (following false ps ++ rest)) := by
  have hv := skipValue_value he.value e.before (endsNumber_blanks e.after hr)
  rw [Entry.text, Element.text, readMembers_following he.spelled, find_eq_none hf he.unknown]
  simp only [List.append_assoc, hv]

/-- Items that came, by the names of their fields, last one first. -/
def names (items : sch.Items) : List String := (items.map fun i => sch.name i.1).reverse

theorem name_mem_names : sch.name k ∈ names items ↔ k ∈ items.keys := by
  simp only [names, List.mem_reverse, List.mem_map, List.keys]
  constructor
  · rintro ⟨i, hi, he⟩
    exact ⟨i, hi, sch.name_injective he⟩
  · rintro ⟨i, hi, rfl⟩
    exact ⟨i, hi, rfl⟩

theorem names_cons (i : Sigma sch.Value) (items : sch.Items) (seen : List String) :
    names (i :: items) ++ seen = names items ++ sch.name i.1 :: seen := by
  simp [names]

/-- Behind one item the others are still new. -/
theorem unseen_of_cons (hi : i.1 ∉ items.keys)
    (hs : ∀ k ∈ (i :: items).keys, sch.name k ∉ seen) :
    ∀ k ∈ items.keys, sch.name k ∉ sch.name i.1 :: seen := by
  intro k hk
  rw [List.mem_cons, not_or]
  refine ⟨fun e => hi ?_, hs k (List.mem_cons_of_mem _ hk)⟩
  rw [← sch.name_injective e]
  exact hk

theorem endsNumber_following (ps qs : List (List Char))
    (hr : EndsNumber (following false qs ++ rest)) :
    EndsNumber (following false (ps ++ qs) ++ rest) := by
  have ha : following false (ps ++ qs) = ps.flatMap (',' :: ·) ++ following false qs :=
    List.flatMap_append
  rw [ha, List.append_assoc]
  exact endsNumber_pieces ps hr

/-- Entries of an object set the items that they say, and nothing else, whatever follows. -/
theorem readMembers_entries (first : Bool) (acc : S) (hf : sch.ReadBy fields)
    (he : sch.Entries es items) (hn : items.NodupKeys) (hs : ∀ k ∈ items.keys, sch.name k ∉ seen)
    (hr : EndsNumber (following false ps ++ rest)) (b : Blanks) : ∃ b' : Blanks,
      readMembers fields seen first acc
          (b.text ++ (following first (es.map Entry.text ++ ps) ++ rest)) =
        readMembers fields (names items ++ seen) (first && es.isEmpty) (sch.override acc items)
          (b'.text ++ (following (first && es.isEmpty) ps ++ rest)) := by
  induction he generalizing seen first acc b with
  | nil => exact ⟨b, by simp [names, override_nil]⟩
  | @known e i es items hk _ ih =>
    rw [List.nodupKeys_cons] at hn
    obtain ⟨b', hb⟩ := ih false (sch.set i acc) hn.2 (unseen_of_cons hn.1 hs) e.after
    refine ⟨b', ?_⟩
    rw [List.map_cons, List.cons_append, readMembers_known hf hk (hs i.1 List.mem_cons_self)
      (endsNumber_following _ _ hr), hb, names_cons, set, override_cons hn.1]
    simp only [Bool.false_and, List.isEmpty_cons, Bool.and_false]
  | @other e key es items ho _ ih =>
    obtain ⟨b', hb⟩ := ih false acc hn hs e.after
    refine ⟨b', ?_⟩
    rw [List.map_cons, List.cons_append, readMembers_other hf ho (endsNumber_following _ _ hr), hb]
    simp only [Bool.false_and, List.isEmpty_cons, Bool.and_false]

theorem nextKey_close (b : Blanks) (rest : List Char) :
    nextKey first (b.text ++ '\x7d' :: rest) = .ok (false, rest) := by
  unfold nextKey
  rw [skipBlanks_append, skipBlanks_of_not_blank (by decide)]
  rfl

theorem endsNumber_brace (rest : List Char) :
    EndsNumber (following false [] ++ '\x7d' :: rest) :=
  endsNumber_close .object rest

variable {expected : String} {defaults : S}

theorem readRecord_brace (b : Blanks) (cs : List Char) :
    readRecord expected fields defaults (b.text ++ '\x7b' :: cs) =
      readMembers fields [] true defaults cs := by
  unfold readRecord
  rw [skipBlanks_append, skipBlanks_of_not_blank (by decide)]
  rfl

theorem readRecord_isObject (hf : sch.ReadBy fields) (h : sch.IsObject cs items)
    (hn : items.NodupKeys) (b : Blanks) (rest : List Char) :
    readRecord expected fields defaults (b.text ++ (cs ++ rest)) =
      .ok (sch.override defaults items, rest) := by
  obtain ⟨b₁, es, rfl, he⟩ := h
  obtain ⟨b₂, hi⟩ := inside_eq b₁ (es.map Entry.text)
  obtain ⟨b₃, hm⟩ := readMembers_entries true defaults hf he hn
    (fun _ _ => List.not_mem_nil) (endsNumber_brace rest) b₂
  have hc : enclosed .object b₁ (es.map Entry.text) ++ rest =
      '\x7b' :: (b₂.text ++ (following true (es.map Entry.text ++ []) ++ '\x7d' :: rest)) := by
    simp [enclosed, hi, Bracket.opening, Bracket.close]
  rw [hc, readRecord_brace, hm, following_nil]
  exact readMembers_end (nextKey_close b₃ rest)

/-! ## Elements of an array -/

theorem nextElement_following (hs : Starts cs) (b b' : Blanks) :
    nextElement first (b.text ++ (following first ((b'.text ++ cs) :: ps) ++ rest)) =
      .ok (some (cs ++ (following false ps ++ rest))) := by
  have hc := (hs.append (following false ps ++ rest)).skipBlanks_eq b'
  obtain ⟨c, ds, rfl, -, hb⟩ := hs
  cases first with
  | true =>
    show nextElement true (b.text ++ (b'.text ++ c :: ds ++ following false ps ++ rest)) = _
    unfold nextElement
    rw [skipBlanks_append, List.append_assoc, List.append_assoc, hc]
    exact if_neg (hb .list)
  | false =>
    have hk : skipBlanks (b.text ++ (following false ((b'.text ++ c :: ds) :: ps) ++ rest)) =
        ',' :: (b'.text ++ (c :: ds ++ (following false ps ++ rest))) := by
      rw [skipBlanks_append]
      show skipBlanks (',' :: (b'.text ++ c :: ds) ++ following false ps ++ rest) = _
      simp only [List.cons_append, List.append_assoc]
      exact skipBlanks_of_not_blank (by decide) _
    unfold nextElement
    rw [hk]
    simp only [hc]
    exact if_neg (hb .list)

theorem readElements_item {f : Field S} {v : sch.Value k} {e : Element} (hf : sch.ReadsField k f)
    (he : (sch.kind k).Means e.value v) (hr : EndsNumber (following false ps ++ rest))
    (b : Blanks) :
    readElements (f :: fields) first acc (b.text ++ (following first (e.text :: ps) ++ rest)) =
      readElements fields false (sch.set ⟨k, v⟩ acc)
        (e.after.text ++ (following false ps ++ rest)) := by
  have hs := ((sch.kind k).starts_of_means he).append e.after.text
  have hv : f.reader.run (e.value ++ (e.after.text ++ (following false ps ++ rest))) = _ :=
    hf.read he noBlanks _ (endsNumber_blanks e.after hr)
  rw [readElements, Element.text, nextElement_following hs]
  simp only [List.append_assoc, hv]

/-- Elements of an array set the fields in their order, as far as there are elements. -/
theorem readElements_items {es : List Element} {ks : List sch.Key} (first : Bool) (acc : S)
    (hf : List.Forall₂ sch.ReadsField (items.keys ++ ks) fields) (he : sch.Elements es items)
    (hn : items.NodupKeys) (hr : EndsNumber (following false ps ++ rest)) (b : Blanks) :
    ∃ (b' : Blanks) (fs : List (Field S)), List.Forall₂ sch.ReadsField ks fs ∧
      readElements fields first acc
          (b.text ++ (following first (es.map Element.text ++ ps) ++ rest)) =
        readElements fs (first && es.isEmpty) (sch.override acc items)
          (b'.text ++ (following (first && es.isEmpty) ps ++ rest)) := by
  unfold Elements at he
  induction he generalizing fields first acc b with
  | nil => exact ⟨b, fields, hf, by simp [override_nil]⟩
  | @cons e i es items hv _ ih =>
    rw [List.nodupKeys_cons] at hn
    rw [List.keys_cons, List.cons_append] at hf
    cases hf with
    | cons hk hf =>
      obtain ⟨b', fs, hfs, hb⟩ := ih false (sch.set i acc) hf hn.2 e.after
      refine ⟨b', fs, hfs, ?_⟩
      rw [List.map_cons, List.cons_append, readElements_item hk hv (endsNumber_following _ _ hr),
        hb, set, override_cons hn.1]
      simp only [Bool.false_and, List.isEmpty_cons, Bool.and_false]

theorem readElements_close (fields : List (Field S)) (first : Bool) (acc : S) (b : Blanks)
    (rest : List Char) :
    readElements fields first acc (b.text ++ ']' :: rest) = .ok (acc, b.text ++ ']' :: rest) := by
  cases fields with
  | nil => rfl
  | cons f fields =>
    have hn : nextElement first (b.text ++ ']' :: rest) = .ok none := by
      unfold nextElement
      rw [skipBlanks_append, skipBlanks_of_not_blank (by decide)]
      rfl
    rw [readElements, hn]

theorem endsNumber_bracket (rest : List Char) : EndsNumber (following false [] ++ ']' :: rest) :=
  endsNumber_close .list rest

theorem closeArray_blanks (b : Blanks) (rest : List Char) :
    closeArray (b.text ++ ']' :: rest) = .ok rest := by
  unfold closeArray
  rw [skipBlanks_append, skipBlanks_of_not_blank (by decide)]
  rfl

theorem readRecord_bracket (b : Blanks) (cs : List Char) :
    readRecord expected fields defaults (b.text ++ '[' :: cs) =
      match readElements fields true defaults cs with
      | .error p => .error p
      | .ok (a, cs) =>
        match closeArray cs with
        | .error p => .error p
        | .ok cs => .ok (a, cs) := by
  unfold readRecord
  rw [skipBlanks_append, skipBlanks_of_not_blank (by decide)]
  rfl

theorem nodupKeys_of_prefix (h : items.keys <+: sch.keys) : items.NodupKeys :=
  sch.nodup_keys.sublist h.sublist

theorem readRecord_isArray (hf : sch.ReadBy fields) (h : sch.IsArray cs items) (b : Blanks)
    (rest : List Char) :
    readRecord expected fields defaults (b.text ++ (cs ++ rest)) =
      .ok (sch.override defaults items, rest) := by
  obtain ⟨⟨b₁, es, rfl, he⟩, hp⟩ := h
  have hn := nodupKeys_of_prefix hp
  obtain ⟨ks, hk⟩ := hp
  obtain ⟨b₂, hi⟩ := inside_eq b₁ (es.map Element.text)
  rw [ReadBy, ← hk] at hf
  obtain ⟨b₃, fs, -, hm⟩ := readElements_items true defaults hf he hn
    (endsNumber_bracket rest) b₂
  have hc : enclosed .list b₁ (es.map Element.text) ++ rest =
      '[' :: (b₂.text ++ (following true (es.map Element.text ++ []) ++ ']' :: rest)) := by
    simp [enclosed, hi, Bracket.opening, Bracket.close]
  have he := readElements_close fs (true && es.isEmpty) (sch.override defaults items) b₃ rest
  rw [hc, readRecord_bracket]
  rw [following_nil] at hm
  simp only [hm, List.nil_append, he, closeArray_blanks]

/-! ## Keys that come again -/

theorem endsNumber_piece (p : List Char) (ps : List (List Char)) (rest : List Char) :
    EndsNumber (following false (p :: ps) ++ rest) := by
  rintro c ⟨⟩
  decide

theorem readMembers_again {f : Field S} (hk : IsText cs key)
    (hf : fields.find? (·.key == key) = some f) (hs : key ∈ seen) (b b' : Blanks) :
    readMembers fields seen first acc (b.text ++ (following first [b'.text ++ cs] ++ rest)) =
      .error (.mismatch (.duplicate key)) := by
  obtain ⟨body, rfl, hb⟩ := hk
  rw [readMembers_of_key (nextKey_following first b b' body) (readString_spells hb _), hf]
  exact if_pos hs

theorem readMembers_refused (hf : sch.ReadBy fields) (hk : IsText cs (sch.name k))
    (hs : sch.name k ∉ seen) {value : List Char} (hv : (sch.kind k).Repeats value key)
    (b b₁ b₂ b₃ : Blanks) :
    readMembers fields seen first acc (b.text ++ (following first
        [b₁.text ++ (cs ++ (b₂.text ++ ':' :: (b₃.text ++ value)))] ++ rest)) =
      .error (.mismatch (.duplicate key)) := by
  obtain ⟨f, hfind, hread⟩ := exists_find hf (sch.mem_keys k)
  rw [readMembers_following hk, hfind]
  simp only [if_neg hs, hread.refuse hv b₃]

theorem readElements_refused {f : Field S} (hf : sch.ReadsField k f)
    (hv : (sch.kind k).Repeats cs key) (b b' : Blanks) :
    readElements (f :: fields) first acc
        (b.text ++ (following first [b'.text ++ cs] ++ rest)) =
      .error (.mismatch (.duplicate key)) := by
  have hr : f.reader.run (cs ++ (following false [] ++ rest)) = _ := hf.refuse hv noBlanks _
  rw [readElements, nextElement_following ((sch.kind k).starts_of_repeats hv)]
  simp only [hr]

theorem readRecord_repeats (hf : sch.ReadBy fields) (h : sch.Repeats cs key) (b : Blanks)
    (rest : List Char) :
    readRecord expected fields defaults (b.text ++ (cs ++ rest)) =
      .error (.mismatch (.duplicate key)) := by
  cases h with
  | here he hn hk hs =>
    obtain ⟨f, hfind, -⟩ := exists_find hf (sch.mem_keys _)
    obtain ⟨b₁, hm⟩ := readMembers_entries true defaults hf he hn
      (fun _ _ => List.not_mem_nil) (endsNumber_piece _ [] rest) noBlanks
    rw [List.cons_append, readRecord_brace]
    refine hm.trans (readMembers_again hs hfind ?_ b₁ _)
    rw [List.append_nil, name_mem_names]
    exact hk
  | member he hn hk hs hv =>
    obtain ⟨b₁, hm⟩ := readMembers_entries true defaults hf he hn
      (fun _ _ => List.not_mem_nil) (endsNumber_piece _ [] rest) noBlanks
    rw [List.cons_append, readRecord_brace]
    refine hm.trans (readMembers_refused hf hs ?_ hv b₁ _ _ _)
    rw [List.append_nil, name_mem_names]
    exact hk
  | @element es items k b₂ value _ he hp hv =>
    have hn := nodupKeys_of_prefix ((List.prefix_append _ _).trans hp)
    obtain ⟨ks, hk⟩ := hp
    rw [ReadBy, ← hk, List.append_assoc] at hf
    obtain ⟨b₁, fs, hfs, hm⟩ := readElements_items true defaults hf he hn
      (endsNumber_piece (b₂.text ++ value) [] rest) noBlanks
    have hr : readElements fields true defaults
        (joined (es.map Element.text ++ [b₂.text ++ value]) ++ rest) =
          .error (.mismatch (.duplicate key)) := by
      cases hfs with
      | cons hread _ => exact hm.trans (readElements_refused hread hv b₁ b₂)
    rw [List.cons_append, readRecord_bracket]
    simp only [hr]

end Schema

theorem recordReader_reads {S : Type} {sch : Schema S} {fields : List (Field S)} (expected : String)
    (hf : sch.ReadBy fields) (defaults : S) :
    (recordReader expected fields defaults).Reads (sch.record defaults) where
  read := by
    rintro cs a ⟨items, rfl, ⟨ho, hn⟩ | ha⟩ b rest -
    · exact Schema.readRecord_isObject hf ho hn b rest
    · exact Schema.readRecord_isArray hf ha b rest
  refuse h b rest := Schema.readRecord_repeats hf h b rest

end HandleBridge.Json
