import HandleBridge.Proofs.Json.Exact

/-
  Places inside a record.

  A text may lead up to a place where a string of the record is due, or a value that nobody asks
  for (`Due`). The text before that place need not be right for the record: its keys may be any
  strings and its values any values (`Loose`). If they are right, then the reader comes to the
  place, reads what is due there, and all that it does afterwards depends on nothing else; if they
  are not, then it has failed before, whatever follows (`Awaits`).

  Proved:
  * `readMembers_loose`, `readElements_loose`: pieces are right for the record, or refused.
  * `awaits_of_reaches`: the reader of a record comes to every place of it, or fails before.
-/

namespace HandleBridge.Json

variable {α : Type} {cs rest u v w : List Char} {d : Due}

/-- What is due at a place. -/
inductive Due where
  /-- The rest of a string that is kept, behind its opening quote. -/
  | string
  /-- A value that nobody asks for. -/
  | skipped
deriving DecidableEq

/-- How it is read; nothing is kept of a value that nobody asks for. -/
def Due.read : Due → List Char → Reading String
  | string, cs => readString cs
  | skipped, cs =>
    match skipValue cs with
    | .error p => .error p
    | .ok rest => .ok ("", rest)

/-- Behind `u` the run fails where what is due is not read, and otherwise depends on nothing but
what is read of it. -/
structure Comes (run : List Char → Reading α) (u : List Char) (d : Due) : Prop where
  fails : ∀ {w p}, d.read w = .error p → run (u ++ w) = .error p
  congr : ∀ {w w'}, d.read w = d.read w' → run (u ++ w) = run (u ++ w')

/-- The run comes to the place behind `u`, unless it fails before. -/
def Awaits (run : List Char → Reading α) (u : List Char) (d : Due) : Prop :=
  (∀ w, ∃ p, run (u ++ w) = .error p) ∨ Comes run u d

theorem awaits_read (d : Due) : Awaits d.read [] d := .inr ⟨id, id⟩

/-- A run comes to a place if another run does that it goes on from. -/
theorem Awaits.bind {β : Type} {run : List Char → Reading α} {run' : List Char → Reading β}
    (h : Awaits run u d) (goOn : α × List Char → Reading β)
    (hr : ∀ w, run' (v ++ w) =
      match run (u ++ w) with
      | .error p => .error p
      | .ok r => goOn r) : Awaits run' v d := by
  rcases h with h | h
  · refine .inl fun w => ?_
    obtain ⟨p, hp⟩ := h w
    exact ⟨p, by rw [hr, hp]⟩
  · refine .inr ⟨fun {w p} hw => ?_, fun {w w'} hw => ?_⟩
    · rw [hr, h.fails hw]
    · rw [hr, hr, h.congr hw]

/-- The reader comes to the places that its texts lead up to, unless it fails before. -/
structure Reader.Traces (r : Reader α) (places : List Char → Due → Prop) : Prop where
  starts : ∀ {u d}, places u d → Starts u
  awaits : ∀ {u d}, places u d → ∀ b : Blanks, Awaits r.run (b.text ++ u) d

/-- The place in a text is behind its opening quote. -/
def textPlaces (u : List Char) (d : Due) : Prop := u = ['"'] ∧ d = .string

/-- Texts without places in them. -/
def noPlaces (_ : List Char) (_ : Due) : Prop := False

theorem textReader_traces : textReader.Traces textPlaces where
  starts := by
    rintro u d ⟨rfl, rfl⟩
    exact starts_quote []
  awaits := by
    rintro u d ⟨rfl, rfl⟩ b
    refine (awaits_read .string).bind .ok fun w => ?_
    have hq : skipBlanks (b.text ++ ['"'] ++ w) = '"' :: w := by
      rw [List.append_assoc]
      exact (starts_quote w).skipBlanks_eq b
    rw [List.nil_append, Due.read]
    show readText _ = _
    unfold readText
    rw [hq]
    dsimp only
    rw [if_pos rfl]
    cases readString w with
    | error p => rfl
    | ok r => rfl

theorem traces_nothing (r : Reader α) : r.Traces noPlaces := ⟨False.elim, False.elim⟩

namespace Schema

variable {S : Type} {sch : Schema S} {fields : List (Field S)} {k : sch.Key}
  {known : sch.Key → List Char → Due → Prop}

/-- The text leads up to a place in a record: to a key, to the value of a key that is no field's,
or into a field; `known` says which texts lead up to a place in a field. -/
inductive Reaches (known : sch.Key → List Char → Due → Prop) : List Char → Due → Prop where
  | key {es : List Entry} {b : Blanks} : Loose es →
      Reaches known ('\x7b' :: joined (es.map Entry.text ++ [b.text ++ ['"']])) .string
  | other {es : List Entry} {b b' b'' : Blanks} {key : List Char} {s : String} : Loose es →
      IsText key s → (∀ k, sch.name k ≠ s) →
      Reaches known ('\x7b' :: joined (es.map Entry.text ++
        [b.text ++ (key ++ (b'.text ++ ':' :: b''.text))])) .skipped
  | member {es : List Entry} {k : sch.Key} {b b' b'' : Blanks} {key u : List Char} {d : Due} :
      Loose es → IsText key (sch.name k) → known k u d →
      Reaches known ('\x7b' :: joined (es.map Entry.text ++
        [b.text ++ (key ++ (b'.text ++ ':' :: (b''.text ++ u)))])) d
  | element {es : List Element} {k : sch.Key} {b : Blanks} {u : List Char} {d : Due} :
      (∀ e ∈ es, IsValue e.value) → sch.keys[es.length]? = some k → known k u d →
      Reaches known ('[' :: joined (es.map Element.text ++ [b.text ++ u])) d

/-- A field whose reader reads and takes the texts of its kind, and comes to their places. -/
structure TracedField (sch : Schema S) (known : sch.Key → List Char → Due → Prop)
    (k : sch.Key) (f : Field S) : Prop extends sch.ReadsField k f, sch.ExactField k f where
  traces : f.reader.Traces (known k)

theorem tracedField_of {r : Reader (sch.Value k)} (hr : r.Reads (sch.kind k))
    (hx : r.Exact (sch.kind k)) (ht : r.Traces (known k)) {put : sch.Value k → S → S}
    (hp : ∀ v s, put v s = sch.set ⟨k, v⟩ s) :
    sch.TracedField known k (.of (sch.name k) r put) where
  toReadsField := readsField_of hr hp
  exact := (exactField_of hx hp).exact
  traces :=
    { starts := ht.starts
      awaits := fun {u d} hu b => by
        refine (ht.awaits hu b).bind (fun a => .ok (put a.1, a.2)) fun w => ?_
        simp only [Field.of]
        cases r.run (b.text ++ u ++ w) with
        | error p => rfl
        | ok a => rfl }

/-- The fields of the schema, in its order. -/
def TracedBy (sch : Schema S) (known : sch.Key → List Char → Due → Prop)
    (fields : List (Field S)) : Prop :=
  List.Forall₂ (sch.TracedField known) sch.keys fields

variable {first : Bool} {acc : S} {seen : List String} {es : List Entry} {key : String}

theorem TracedBy.readBy (hf : sch.TracedBy known fields) : sch.ReadBy fields :=
  hf.imp fun _ _ h => h.toReadsField

theorem TracedBy.exactBy (hf : sch.TracedBy known fields) : sch.ExactBy fields :=
  hf.imp fun _ _ h => h.toExactField

theorem exists_traced (hf : sch.TracedBy known fields) (k : sch.Key) :
    ∃ f, fields.find? (·.key == sch.name k) = some f ∧ sch.TracedField known k f :=
  exists_find_of (fun h => h.key_eq) hf (sch.mem_keys k)

/-! ## Pieces that may be wrong -/

/-- A field reads a value as what it means, or not at all. -/
theorem TracedField.read_or_fail {f : Field S} (hf : sch.TracedField known k f) (hv : IsValue v)
    (hm : ¬ ∃ x, (sch.kind k).Means v x) (b : Blanks) (hr : EndsNumber rest) :
    ∃ p, f.reader.run (b.text ++ (v ++ rest)) = .error p := by
  cases hrun : f.reader.run (b.text ++ (v ++ rest)) with
  | error p => exact ⟨p, rfl⟩
  | ok r =>
    obtain ⟨set, rest'⟩ := r
    obtain ⟨⟨b', v', x, he, hmeans, -⟩, hs⟩ := hf.exact hrun
    rw [skipValue_value hv b hr] at hs
    cases hs
    have hv' := Starts.append_inj (hv.starts.append rest)
      (((sch.kind k).starts_of_means hmeans).append rest) he
    rw [List.append_cancel_right hv'] at hm
    exact absurd ⟨x, hmeans⟩ hm

theorem readMembers_key_error {r : List Char} {p : Problem} (hk : nextKey first cs = .ok (true, r))
    (hs : readString r = .error p) : readMembers fields seen first acc cs = .error p := by
  rw [readMembers]
  split <;> rename_i h <;> rw [hk] at h <;> cases h
  split <;> rename_i h <;> rw [hs] at h <;> cases h
  rfl

/-- A key that is no text is not read, whatever it is. -/
theorem readMembers_no_text {e : Entry} (hk : IsString e.key) (hn : ¬ ∃ s, IsText e.key s)
    (seen : List String) (first : Bool) (acc : S) (b : Blanks) (ps : List (List Char))
    (rest : List Char) : ∃ p, readMembers fields seen first acc
      (b.text ++ (following first (e.text :: ps) ++ rest)) = .error p := by
  obtain ⟨body, hbody, hmarks⟩ := hk
  have htail : ∃ tail, nextKey first (b.text ++ (following first (e.text :: ps) ++ rest)) =
      .ok (true, body ++ tail) := by
    rw [Entry.text, hbody, List.cons_append, nextKey_following]
    exact ⟨_, by simp only [List.append_assoc]; rfl⟩
  obtain ⟨tail, htail⟩ := htail
  cases hs : readString (body ++ tail) with
  | error p => exact ⟨p, readMembers_key_error htail hs⟩
  | ok r =>
    obtain ⟨-, hspells⟩ := spells_of_readString hmarks hs
    exact absurd ⟨_, body, hbody, hspells⟩ hn

/-- What may be read of one entry: it is a field that is new, or no field, or the reading fails. -/
theorem readMembers_entry (hf : sch.TracedBy known fields) {e : Entry} (hkey : IsString e.key)
    (hval : IsValue e.value) (seen : List String) (first : Bool) (acc : S) (b : Blanks) :
    (∀ ps rest, EndsNumber (following false ps ++ rest) → ∃ p,
        readMembers fields seen first acc
          (b.text ++ (following first (e.text :: ps) ++ rest)) = .error p) ∨
      (∃ i, sch.Known e i ∧ sch.name i.1 ∉ seen) ∨ ∃ s, sch.Other e s := by
  by_cases htext : ∃ s, IsText e.key s
  · obtain ⟨s, hs⟩ := htext
    by_cases hname : ∃ k, sch.name k = s
    · obtain ⟨k, rfl⟩ := hname
      obtain ⟨f, hfind, hfield⟩ := exists_traced hf k
      by_cases hseen : sch.name k ∈ seen
      · refine .inl fun ps rest _ => ⟨.mismatch (.duplicate (sch.name k)), ?_⟩
        rw [Entry.text, Element.text, readMembers_following hs, hfind]
        exact if_pos hseen
      by_cases hm : ∃ x, (sch.kind k).Means e.value x
      · obtain ⟨x, hm⟩ := hm
        exact .inr (.inl ⟨⟨k, x⟩, ⟨hs, hm⟩, hseen⟩)
      · refine .inl fun ps rest hr => ?_
        obtain ⟨p, hp⟩ := hfield.read_or_fail hval hm e.before (endsNumber_blanks e.after hr)
        refine ⟨p, ?_⟩
        rw [Entry.text, Element.text, readMembers_following hs, hfind]
        simp only [if_neg hseen, List.append_assoc, hp]
    · exact .inr (.inr ⟨s, hs, fun k hk => hname ⟨k, hk⟩, hval⟩)
  · exact .inl fun ps rest _ => readMembers_no_text hkey htext seen first acc b ps rest

/-- What may be read of entries: they say items that are new, or the reading fails. -/
theorem readMembers_loose (hf : sch.TracedBy known fields) (hl : Loose es) (seen : List String)
    (first : Bool) (acc : S) (b : Blanks) :
    (∀ ps rest, EndsNumber (following false ps ++ rest) → ∃ p,
        readMembers fields seen first acc
          (b.text ++ (following first (es.map Entry.text ++ ps) ++ rest)) = .error p) ∨
      ∃ items, sch.Entries es items ∧ items.NodupKeys ∧ ∀ k ∈ items.keys, sch.name k ∉ seen := by
  induction es generalizing seen first acc b with
  | nil => exact .inr ⟨[], .nil, List.nodupKeys_nil, fun _ hk => absurd hk List.not_mem_nil⟩
  | cons e es ih =>
    obtain ⟨⟨hkey, hval⟩, hl⟩ := List.forall_mem_cons.1 hl
    have hends := fun (ps : List (List Char)) (rest : List Char)
      (hr : EndsNumber (following false ps ++ rest)) =>
        endsNumber_following (es.map Entry.text) ps hr
    rcases readMembers_entry hf hkey hval seen first acc b with h | ⟨i, he, hseen⟩ | ⟨s, he⟩
    · exact .inl fun ps rest hr => h _ rest (hends ps rest hr)
    · rcases ih hl (sch.name i.1 :: seen) false (sch.set i acc) e.after with h | h
      · refine .inl fun ps rest hr => ?_
        obtain ⟨p, hp⟩ := h ps rest hr
        exact ⟨p, (readMembers_known hf.readBy he hseen (hends ps rest hr) b).trans hp⟩
      · obtain ⟨items, hes, hn, hnew⟩ := h
        refine .inr ⟨i :: items, .known he hes, List.nodupKeys_cons.2 ⟨?_, hn⟩, ?_⟩
        · exact fun hmem => hnew i.1 hmem List.mem_cons_self
        · rintro k hmem
          rcases List.mem_cons.1 hmem with rfl | hmem
          · exact hseen
          · exact fun hs => hnew k hmem (List.mem_cons_of_mem _ hs)
    · rcases ih hl seen false acc e.after with h | ⟨items, hes, hn, hnew⟩
      · refine .inl fun ps rest hr => ?_
        obtain ⟨p, hp⟩ := h ps rest hr
        exact ⟨p, (readMembers_other hf.readBy he (hends ps rest hr) b).trans hp⟩
      · exact .inr ⟨items, .other he hes, hn, hnew⟩

/-- What may be read of elements: they are values of the first fields, and the other fields are
left, or the reading fails. -/
theorem readElements_loose {keys : List sch.Key}
    (hf : List.Forall₂ (sch.TracedField known) keys fields) {es : List Element}
    (hl : ∀ e ∈ es, IsValue e.value) (hn : es.length ≤ keys.length) (first : Bool) (acc : S)
    (b : Blanks) :
    (∀ ps rest, EndsNumber (following false ps ++ rest) → ∃ p,
        readElements fields first acc
          (b.text ++ (following first (es.map Element.text ++ ps) ++ rest)) = .error p) ∨
      ∃ (fs : List (Field S)) (first' : Bool) (acc' : S) (b' : Blanks),
        List.Forall₂ (sch.TracedField known) (keys.drop es.length) fs ∧
          ∀ ps rest, EndsNumber (following false ps ++ rest) →
            readElements fields first acc
                (b.text ++ (following first (es.map Element.text ++ ps) ++ rest)) =
              readElements fs first' acc' (b'.text ++ (following first' ps ++ rest)) := by
  induction es generalizing keys fields first acc b with
  | nil => exact .inr ⟨fields, first, acc, b, hf, fun ps rest _ => rfl⟩
  | cons e es ih =>
    obtain ⟨hval, hl⟩ := List.forall_mem_cons.1 hl
    cases hf with
    | nil => cases hn
    | @cons k f keys fields hfield hf =>
      have hends := fun (ps : List (List Char)) (rest : List Char)
        (hr : EndsNumber (following false ps ++ rest)) =>
          endsNumber_following (es.map Element.text) ps hr
      by_cases hm : ∃ x, (sch.kind k).Means e.value x
      · obtain ⟨x, hm⟩ := hm
        have hread (ps : List (List Char)) (rest : List Char)
            (hr : EndsNumber (following false ps ++ rest)) :
            readElements (f :: fields) first acc
                (b.text ++ (following first (e.text :: (es.map Element.text ++ ps)) ++ rest)) =
              readElements fields false (sch.set ⟨k, x⟩ acc)
                (e.after.text ++ (following false (es.map Element.text ++ ps) ++ rest)) :=
          readElements_item hfield.toReadsField hm (hends ps rest hr) b
        rcases ih hf hl (Nat.le_of_succ_le_succ hn) false (sch.set ⟨k, x⟩ acc) e.after with h | h
        · refine .inl fun ps rest hr => ?_
          obtain ⟨p, hp⟩ := h ps rest hr
          exact ⟨p, (hread ps rest hr).trans hp⟩
        · obtain ⟨fs, first', acc', b', hfs, h⟩ := h
          exact .inr ⟨fs, first', acc', b', hfs,
            fun ps rest hr => (hread ps rest hr).trans (h ps rest hr)⟩
      · refine .inl fun ps rest hr => ?_
        obtain ⟨p, hp⟩ := hfield.read_or_fail hval hm noBlanks
          (endsNumber_blanks e.after (hends ps rest hr))
        refine ⟨p, ?_⟩
        rw [List.map_cons, List.cons_append, readElements, Element.text,
          nextElement_following (hval.starts.append e.after.text)]
        simp only [noBlanks, List.nil_append] at hp
        simp only [List.append_assoc, hp]

/-! ## Places -/

variable {expected : String} {defaults : S}

/-- Behind entries the reading goes on as it does behind any entries, or it has failed. -/
theorem readRecord_entries (hf : sch.TracedBy known fields) (hl : Loose es) (b : Blanks) :
    (∀ p w, ∃ problem, readRecord expected fields defaults
        (b.text ++ ('\x7b' :: joined (es.map Entry.text ++ [p]) ++ w)) = .error problem) ∨
      ∃ (seen : List String) (first : Bool) (acc : S), ∀ p w, ∃ b' : Blanks,
        readRecord expected fields defaults
            (b.text ++ ('\x7b' :: joined (es.map Entry.text ++ [p]) ++ w)) =
          readMembers fields seen first acc (b'.text ++ (following first [p] ++ w)) := by
  rcases readMembers_loose hf hl [] true defaults noBlanks with h | ⟨items, hes, hn, hnew⟩
  · refine .inl fun p w => ?_
    rw [List.cons_append, readRecord_brace]
    exact h [p] w (endsNumber_piece p [] w)
  · refine .inr ⟨names items ++ [], true && es.isEmpty, sch.override defaults items,
      fun p w => ?_⟩
    rw [List.cons_append, readRecord_brace]
    exact readMembers_entries true defaults hf.readBy hes hn hnew (endsNumber_piece p [] w) noBlanks

/-- What reading an array makes of its elements. -/
def closing (r : Reading S) : Reading S :=
  match r with
  | .error p => .error p
  | .ok (a, cs) =>
    match closeArray cs with
    | .error p => .error p
    | .ok cs => .ok (a, cs)

/-- The same for elements, with the field that comes next. -/
theorem readRecord_elements (hf : sch.TracedBy known fields) {es : List Element}
    (hl : ∀ e ∈ es, IsValue e.value) (hk : sch.keys[es.length]? = some k) (b : Blanks) :
    (∀ p w, ∃ problem, readRecord expected fields defaults
        (b.text ++ ('[' :: joined (es.map Element.text ++ [p]) ++ w)) = .error problem) ∨
      ∃ (f : Field S) (fs : List (Field S)) (first : Bool) (acc : S) (b' : Blanks),
        sch.TracedField known k f ∧ ∀ p w, readRecord expected fields defaults
            (b.text ++ ('[' :: joined (es.map Element.text ++ [p]) ++ w)) =
          closing (readElements (f :: fs) first acc (b'.text ++ (following first [p] ++ w))) := by
  obtain ⟨hlt, hget⟩ := List.getElem?_eq_some_iff.1 hk
  have hread (p w : List Char) : readRecord expected fields defaults
      (b.text ++ ('[' :: joined (es.map Element.text ++ [p]) ++ w)) =
        closing (readElements fields true defaults
          (noBlanks.text ++ (following true (es.map Element.text ++ [p]) ++ w))) := by
    rw [List.cons_append, readRecord_bracket]
    rfl
  rcases readElements_loose hf hl (Nat.le_of_lt hlt) true defaults noBlanks with h | h
  · refine .inl fun p w => ?_
    obtain ⟨problem, hp⟩ := h [p] w (endsNumber_piece p [] w)
    exact ⟨problem, by rw [hread, hp]; rfl⟩
  · obtain ⟨fs, first, acc, b', hfs, h⟩ := h
    rw [List.drop_eq_getElem_cons hlt, hget] at hfs
    cases hfs with
    | @cons _ f _ fs hfield _ =>
      refine .inr ⟨f, fs, first, acc, b', hfield, fun p w => ?_⟩
      rw [hread, h [p] w (endsNumber_piece p [] w)]

/-- What is left to do behind the colon of a key. -/
def behindColon (fields : List (Field S)) (seen : List String) (acc : S) (key : String)
    (cs : List Char) : Reading S :=
  match fields.find? (·.key == key) with
  | some field =>
    if key ∈ seen then .error (.mismatch (.duplicate key))
    else
      match field.reader.run cs with
      | .error p => .error p
      | .ok (set, rest) => readMembers fields (key :: seen) false (set acc) rest
  | none =>
    match skipValue cs with
    | .error p => .error p
    | .ok rest => readMembers fields seen false acc rest

/-- What reading makes of a text that leads up to the value of a key. -/
theorem readMembers_at_value {s : String} {key : List Char} (hs : IsText key s)
    (fields : List (Field S)) (seen : List String) (first : Bool) (acc : S)
    (b b₁ b₂ b₃ : Blanks) (u w : List Char) :
    readMembers fields seen first acc (b.text ++ (following first
        [b₁.text ++ (key ++ (b₂.text ++ ':' :: (b₃.text ++ u)))] ++ w)) =
      behindColon fields seen acc s (b₃.text ++ u ++ w) := by
  rw [readMembers_following hs, List.append_assoc]
  rfl

theorem readElements_at_element {f : Field S} {fs : List (Field S)} (first : Bool) (acc : S)
    (b b' : Blanks) (hs : Starts u) (w : List Char) :
    readElements (f :: fs) first acc (b.text ++ (following first [b'.text ++ u] ++ w)) =
      match f.reader.run (u ++ w) with
      | .error p => .error p
      | .ok (set, rest) => readElements fs false (set acc) rest := by
  rw [readElements, nextElement_following hs]
  rfl

/-- What is left to do behind a key. -/
def behindKey (fields : List (Field S)) (seen : List String) (acc : S) (r : String × List Char) :
    Reading S :=
  match fields.find? (·.key == r.1) with
  | some field =>
    if r.1 ∈ seen then .error (.mismatch (.duplicate r.1))
    else
      match expectColon r.2 with
      | .error p => .error p
      | .ok rest₂ =>
        match field.reader.run rest₂ with
        | .error p => .error p
        | .ok (set, rest₃) => readMembers fields (r.1 :: seen) false (set acc) rest₃
  | none =>
    match expectColon r.2 with
    | .error p => .error p
    | .ok rest₂ =>
      match skipValue rest₂ with
      | .error p => .error p
      | .ok rest₃ => readMembers fields seen false acc rest₃

theorem readMembers_at_key (seen : List String) (first : Bool) (acc : S) (b b' : Blanks)
    (w : List Char) :
    readMembers fields seen first acc (b.text ++ (following first [b'.text ++ ['"']] ++ w)) =
      match readString w with
      | .error p => .error p
      | .ok r => behindKey fields seen acc r := by
  have hk : nextKey first (b.text ++ (following first [b'.text ++ ['"']] ++ w)) = .ok (true, w) :=
    nextKey_following first b b' []
  cases hs : readString w with
  | error p => exact readMembers_key_error hk hs
  | ok r => exact readMembers_of_key hk hs

theorem skipValue_blanks (b : Blanks) (cs : List Char) :
    skipValue (b.text ++ cs) = skipValue cs := by
  simp only [skipValue, skipFrom_value_eq, skipBlanks_append]

/-- The reading comes to a key behind entries. -/
theorem awaits_key (hf : sch.TracedBy known fields) (hl : Loose es) (b b₁ : Blanks) :
    Awaits (readRecord expected fields defaults)
      (b.text ++ '\x7b' :: joined (es.map Entry.text ++ [b₁.text ++ ['"']])) .string := by
  rcases readRecord_entries hf hl b with h | ⟨seen, first, acc, h⟩
  · exact .inl fun w => by rw [List.append_assoc]; exact h _ w
  · refine (awaits_read .string).bind (behindKey fields seen acc) fun w => ?_
    obtain ⟨b', hb⟩ := h (b₁.text ++ ['"']) w
    rw [List.append_assoc, hb, readMembers_at_key, List.nil_append, Due.read]
    cases readString w with
    | error p => rfl
    | ok r => rfl

/-- It comes to the value of a key that is no field's. -/
theorem awaits_other (hf : sch.TracedBy known fields) (hl : Loose es) {key : List Char} {s : String}
    (hs : IsText key s) (hother : ∀ k, sch.name k ≠ s) (b b₁ b₂ b₃ : Blanks) :
    Awaits (readRecord expected fields defaults)
      (b.text ++ '\x7b' :: joined (es.map Entry.text ++
        [b₁.text ++ (key ++ (b₂.text ++ ':' :: b₃.text))])) .skipped := by
  rcases readRecord_entries hf hl b with h | ⟨seen, first, acc, h⟩
  · exact .inl fun w => by rw [List.append_assoc]; exact h _ w
  · refine (awaits_read .skipped).bind (fun r => readMembers fields seen false acc r.2)
      fun w => ?_
    obtain ⟨b', hb⟩ := h (b₁.text ++ (key ++ (b₂.text ++ ':' :: b₃.text))) w
    have hv := readMembers_at_value hs fields seen first acc b' b₁ b₂ b₃ [] w
    rw [List.append_nil, behindColon, find_eq_none hf.readBy hother, skipValue_blanks] at hv
    rw [List.append_assoc, hb, hv, List.nil_append, Due.read]
    cases skipValue w with
    | error p => rfl
    | ok rest => rfl

/-- It comes to the places in the value of a field. -/
theorem awaits_member (hf : sch.TracedBy known fields) (hl : Loose es) {key : List Char}
    (hs : IsText key (sch.name k)) (hu : known k u d) (b b₁ b₂ b₃ : Blanks) :
    Awaits (readRecord expected fields defaults)
      (b.text ++ '\x7b' :: joined (es.map Entry.text ++
        [b₁.text ++ (key ++ (b₂.text ++ ':' :: (b₃.text ++ u)))])) d := by
  rcases readRecord_entries hf hl b with h | ⟨seen, first, acc, h⟩
  · exact .inl fun w => by rw [List.append_assoc]; exact h _ w
  obtain ⟨f, hfind, hfield⟩ := exists_traced hf k
  by_cases hseen : sch.name k ∈ seen
  · refine .inl fun w => ⟨.mismatch (.duplicate (sch.name k)), ?_⟩
    obtain ⟨b', hb⟩ := h (b₁.text ++ (key ++ (b₂.text ++ ':' :: (b₃.text ++ u)))) w
    rw [List.append_assoc, hb, readMembers_at_value hs, behindColon, hfind]
    exact if_pos hseen
  · refine (hfield.traces.awaits hu b₃).bind
      (fun r => readMembers fields (sch.name k :: seen) false (r.1 acc) r.2) fun w => ?_
    obtain ⟨b', hb⟩ := h (b₁.text ++ (key ++ (b₂.text ++ ':' :: (b₃.text ++ u)))) w
    rw [List.append_assoc, hb, readMembers_at_value hs, behindColon, hfind]
    simp only [if_neg hseen]
    cases f.reader.run (b₃.text ++ u ++ w) with
    | error p => rfl
    | ok r => rfl

/-- It comes to the places in an element, which is the value of a field. -/
theorem awaits_element (hf : sch.TracedBy known fields) {es : List Element}
    (hl : ∀ e ∈ es, IsValue e.value) (hk : sch.keys[es.length]? = some k) (hu : known k u d)
    (b b₁ : Blanks) :
    Awaits (readRecord expected fields defaults)
      (b.text ++ '[' :: joined (es.map Element.text ++ [b₁.text ++ u])) d := by
  rcases readRecord_elements hf hl hk b with h | ⟨f, fs, first, acc, b', hfield, h⟩
  · exact .inl fun w => by rw [List.append_assoc]; exact h _ w
  · refine (hfield.traces.awaits hu noBlanks).bind
      (fun r => closing (readElements fs false (r.1 acc) r.2)) fun w => ?_
    rw [List.append_assoc, h,
      readElements_at_element first acc b' b₁ (hfield.traces.starts hu) w, noBlanks,
      List.nil_append]
    cases f.reader.run (u ++ w) with
    | error p => rfl
    | ok r => rfl

/-- The reading of a record comes to every place of it, unless it fails before. -/
theorem awaits_of_reaches (hf : sch.TracedBy known fields) (hu : sch.Reaches known u d)
    (b : Blanks) : Awaits (readRecord expected fields defaults) (b.text ++ u) d := by
  cases hu with
  | key hl => exact awaits_key hf hl b _
  | other hl hs hother => exact awaits_other hf hl hs hother b _ _ _
  | member hl hs hu => exact awaits_member hf hl hs hu b _ _ _
  | element hl hk hu => exact awaits_element hf hl hk hu b _

theorem Reaches.starts (hu : sch.Reaches known u d) : Starts u := by
  cases hu
  all_goals exact ⟨_, _, rfl, by decide, fun br => by cases br <;> decide⟩

theorem recordReader_traces (expected : String) (hf : sch.TracedBy known fields) (defaults : S) :
    (recordReader expected fields defaults).Traces (sch.Reaches known) :=
  ⟨Reaches.starts, awaits_of_reaches hf⟩

end Schema

end HandleBridge.Json
