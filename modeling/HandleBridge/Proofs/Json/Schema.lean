import HandleBridge.Proofs.Json.Written
import Mathlib.Data.List.Sigma

/-
  Records by their fields.

  A schema names the fields of a record in their order and says which texts stand for a value of
  each. A text of the record is an object with some of the fields, in any order and with anything
  else between them, or an array with the first few. Either way it says a list of items, a field
  with its value each, and stands for the defaults with those fields overridden. A field may be a
  record itself, so the rules hold at every level.

  Some texts are wrong however they go on: those that come to the key of a field a second time in
  one object, at any level (`Repeats`).

  Proved:
  * `override_cons`: items may be set one by one, if no field comes twice.
  * `override_perm`: their order does not matter then.
-/

namespace HandleBridge.Json

/-! ## Kinds of values -/

/-- A kind of values: which text means which value, and which texts are wrong because they
end behind a key that stood there before. -/
structure Kind (α : Type) where
  Means : List Char → α → Prop
  Repeats : List Char → String → Prop
  starts_of_means : ∀ {cs a}, Means cs a → Starts cs
  starts_of_repeats : ∀ {cs key}, Repeats cs key → Starts cs

/-- A word stands as its decimal digits. -/
def IsWord (cs : List Char) (n : Nat) : Prop := cs = Nat.toDigits 10 n ∧ n ≤ maxWord

theorem IsText.starts {cs : List Char} {s : String} (h : IsText cs s) : Starts cs := by
  obtain ⟨body, rfl, -⟩ := h
  exact starts_quote body

theorem IsWord.starts {cs : List Char} {n : Nat} (h : IsWord cs n) : Starts cs := by
  obtain ⟨c, ds, hc, hd⟩ := toDigits_eq_cons n
  rw [h.1, hc]
  refine ⟨c, ds, rfl, isBlank_of_isDigit hd, ?_⟩
  rintro br rfl
  cases br <;> exact absurd hd (by decide)

namespace Kind

def text : Kind String where
  Means := IsText
  Repeats _ _ := False
  starts_of_means := IsText.starts
  starts_of_repeats := False.elim

def word : Kind Nat where
  Means := IsWord
  Repeats _ _ := False
  starts_of_means := IsWord.starts
  starts_of_repeats := False.elim

def wordOrNull : Kind (Option Nat) where
  Means cs v := (v = none ∧ cs = ['n', 'u', 'l', 'l']) ∨ ∃ n, v = some n ∧ IsWord cs n
  Repeats _ _ := False
  starts_of_means := by
    rintro cs v (⟨-, rfl⟩ | ⟨n, -, hn⟩)
    · exact IsValue.null.starts
    · exact hn.starts
  starts_of_repeats := False.elim

end Kind

/-! ## Schemas -/

/-- The fields of a record, in their order. -/
structure Schema (S : Type) where
  Key : Type
  [decEq : DecidableEq Key]
  keys : List Key
  mem_keys : ∀ k, k ∈ keys
  nodup_keys : keys.Nodup
  name : Key → String
  name_injective : Function.Injective name
  Value : Key → Type
  kind : ∀ k, Kind (Value k)
  get : S → ∀ k, Value k
  build : (∀ k, Value k) → S
  get_build : ∀ f, get (build f) = f
  build_get : ∀ s, build (get s) = s

attribute [instance] Schema.decEq

namespace Schema

variable {S : Type} (sch : Schema S)

/-- Fields with their values, as they come in a text. -/
abbrev Items : Type := List (Sigma sch.Value)

/-- The record with the fields that come among the items; all others are as they were. -/
def override (s : S) (items : sch.Items) : S :=
  sch.build fun k => (items.dlookup k).getD (sch.get s k)

/-- An entry of an object that is a field. -/
structure Known (e : Entry) (i : Sigma sch.Value) : Prop where
  spelled : IsText e.key (sch.name i.1)
  means : (sch.kind i.1).Means e.value i.2

/-- An entry of an object that is no field. -/
structure Other (e : Entry) (key : String) : Prop where
  spelled : IsText e.key key
  unknown : ∀ k, sch.name k ≠ key
  value : IsValue e.value

/-- The entries say the items, in this order; others may stand between them. -/
inductive Entries : List Entry → sch.Items → Prop where
  | nil : Entries [] []
  | known {e : Entry} {i : Sigma sch.Value} {es : List Entry} {items : sch.Items} :
      sch.Known e i → Entries es items → Entries (e :: es) (i :: items)
  | other {e : Entry} {key : String} {es : List Entry} {items : sch.Items} :
      sch.Other e key → Entries es items → Entries (e :: es) items

/-- The elements are the values of the items. -/
def Elements (es : List Element) (items : sch.Items) : Prop :=
  List.Forall₂ (fun e i => (sch.kind i.1).Means e.value i.2) es items

/-- An object that says the items. -/
def IsObject (cs : List Char) (items : sch.Items) : Prop :=
  ∃ b es, cs = enclosed .object b (es.map Entry.text) ∧ sch.Entries es items

/-- An array that says the items, each by its place. -/
def IsArray (cs : List Char) (items : sch.Items) : Prop :=
  (∃ b es, cs = enclosed .list b (es.map Element.text) ∧ sch.Elements es items) ∧
    items.keys <+: sch.keys

/-- The text ends behind a key that stood in the same object before, and is right up to there:
here, in a field of an object, or in a field of an array. -/
inductive Repeats : List Char → String → Prop where
  | here {es : List Entry} {items : sch.Items} {k : sch.Key} {b : Blanks} {key : List Char} :
      sch.Entries es items → items.NodupKeys → k ∈ items.keys → IsText key (sch.name k) →
      Repeats ('\x7b' :: joined (es.map Entry.text ++ [b.text ++ key])) (sch.name k)
  | member {es : List Entry} {items : sch.Items} {k : sch.Key} {b b' b'' : Blanks}
      {key value : List Char} {again : String} :
      sch.Entries es items → items.NodupKeys → k ∉ items.keys → IsText key (sch.name k) →
      (sch.kind k).Repeats value again →
      Repeats ('\x7b' :: joined (es.map Entry.text ++
        [b.text ++ (key ++ (b'.text ++ ':' :: (b''.text ++ value)))])) again
  | element {es : List Element} {items : sch.Items} {k : sch.Key} {b : Blanks}
      {value : List Char} {again : String} :
      sch.Elements es items → items.keys ++ [k] <+: sch.keys →
      (sch.kind k).Repeats value again →
      Repeats ('[' :: joined (es.map Element.text ++ [b.text ++ value])) again

/-- The texts of a record with these defaults. -/
def record (defaults : S) : Kind S where
  Means cs s := ∃ items, s = sch.override defaults items ∧
    (sch.IsObject cs items ∧ items.NodupKeys ∨ sch.IsArray cs items)
  Repeats := sch.Repeats
  starts_of_means := by
    rintro cs s ⟨items, -, ⟨⟨b, es, rfl, -⟩, -⟩ | ⟨⟨b, es, rfl, -⟩, -⟩⟩
    all_goals exact ⟨_, _, rfl, by decide, fun br => by cases br <;> decide⟩
  starts_of_repeats := by
    rintro cs key (_ | _ | _)
    all_goals exact ⟨_, _, rfl, by decide, fun br => by cases br <;> decide⟩

/-! ### Overriding -/

variable {sch} {items : sch.Items} {i : Sigma sch.Value} {s : S}

theorem override_nil (s : S) : sch.override s [] = s := sch.build_get s

/-- Items may be set one by one. -/
theorem override_cons (hi : i.1 ∉ items.keys) :
    sch.override (sch.override s [i]) items = sch.override s (i :: items) := by
  unfold override
  congr 1
  funext k
  rw [sch.get_build]
  by_cases hk : k = i.1
  · subst hk
    rw [List.dlookup_eq_none.2 hi, List.dlookup_cons_eq, List.dlookup_cons_eq]
    rfl
  · rw [List.dlookup_cons_ne _ _ hk, List.dlookup_cons_ne _ _ hk]
    rfl

theorem override_perm {items' : sch.Items} (hn : items.NodupKeys) (hp : items.Perm items') :
    sch.override s items = sch.override s items' := by
  unfold override
  congr 1
  funext k
  rw [List.perm_dlookup k hn hp]

/-! ### All fields -/

/-- All fields with their values, in their order. -/
def values (sch : Schema S) (s : S) : sch.Items := sch.keys.map fun k => ⟨k, sch.get s k⟩

theorem keys_values (s : S) : (sch.values s).keys = sch.keys := by
  simp only [values, List.keys, List.map_map, Function.comp_def, List.map_id']

theorem nodupKeys_values (s : S) : (sch.values s).NodupKeys := by
  unfold List.NodupKeys
  rw [keys_values]
  exact sch.nodup_keys

/-- Nothing is left of a record all fields of which are overridden. -/
theorem override_values (defaults s : S) : sch.override defaults (sch.values s) = s := by
  have hk : ∀ k, (sch.values s).dlookup k = some (sch.get s k) := fun k =>
    List.mem_dlookup (nodupKeys_values s) (List.mem_map.2 ⟨k, sch.mem_keys k, rfl⟩)
  unfold override
  simp only [hk, Option.getD_some]
  exact sch.build_get s

theorem entries_written {keys : List sch.Key} {text : sch.Key → List Char}
    (ht : ∀ k, (sch.kind k).Means (text k) (sch.get s k)) :
    sch.Entries (keys.map fun k => Entry.written (sch.name k) (text k))
      (keys.map fun k => ⟨k, sch.get s k⟩) := by
  induction keys with
  | nil => exact .nil
  | cons k keys ih => exact .known ⟨isText_written (sch.name k), ht k⟩ ih

/-- A record that is written with all its fields is a text for itself, whatever the defaults. -/
theorem means_written {text : sch.Key → List Char}
    (ht : ∀ k, (sch.kind k).Means (text k) (sch.get s k)) (defaults : S) :
    (sch.record defaults).Means
      (enclosed .object noBlanks (sch.keys.map fun k => member (sch.name k) (text k))) s := by
  refine ⟨sch.values s, (override_values defaults s).symm, .inl ⟨⟨noBlanks, _, ?_,
    entries_written ht⟩, nodupKeys_values s⟩⟩
  simp only [List.map_map, Function.comp_def, Entry.text_written]

end Schema

end HandleBridge.Json
