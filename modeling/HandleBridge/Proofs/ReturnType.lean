import HandleBridge.ReturnType

/-
  What crosses for a result in layers, whatever the layers.

  The layers of a result are looked at from the outermost one on. If each holds something, there
  is a value inside all of them, and that value crosses. Otherwise the first that holds nothing
  decides alone: the default of the innermost type crosses, and if that layer failed, its error
  is reported. `Form` and `Default` say for each scalar type what that is: values cross as they
  are, addresses as numbers. All inductions are on the type of the result, with one case for each
  kind of layer.

  Proved:
  * `value_cross`, `events_cross`: the scalar that crosses, from the value inside, and what is
    reported, from the outermost failure.
  * `innermost?_eq_none_iff`: there is a value inside unless a layer holds nothing.
  * `outermost_failure_decides`: for every type of results and every result, what crosses, when
    there is a warning, and what it says.
-/

namespace HandleBridge

namespace ScalarType

/-- What a value of the type crosses as. -/
inductive Form : (t : ScalarType) → t.Value → Scalar → Prop where
  | unit : Form unit () .unit
  | bool {b : Bool} : Form bool b (.bool b)
  | char {c : Char} : Form char c (.char c)
  | int {n : Int} : Form int n (.int n)
  | float32 {bits : UInt32} : Form float32 bits (.float32 bits)
  | float64 {bits : UInt64} : Form float64 bits (.float64 bits)
  | pointer {address : Nat} : Form pointer address (.offset address)

/-- What crosses in the place of a value of the type. -/
inductive Default : ScalarType → Scalar → Prop where
  | unit : Default unit .unit
  | bool : Default bool (.bool false)
  | char : Default char (.char '\x00')
  | int : Default int (.int 0)
  | float32 : Default float32 (.float32 0)
  | float64 : Default float64 (.float64 0)
  | pointer : Default pointer (.offset 0)

theorem form_form (t : ScalarType) (x : t.Value) : t.Form x (t.form x) := by
  cases t with
  | unit => exact .unit
  | bool => exact .bool
  | char => exact .char
  | int => exact .int
  | float32 => exact .float32
  | float64 => exact .float64
  | pointer => exact .pointer

theorem default_iff {t : ScalarType} {d : Scalar} : t.Default d ↔ d = t.sentinel := by
  constructor
  · intro h
    cases h <;> rfl
  · rintro rfl
    cases t <;> constructor

end ScalarType

/-- How a layer of a result turned out. -/
inductive Layer where
  | present
  | absent
  | succeeded
  | failed (message : String)
deriving DecidableEq

/-- The layer holds nothing. -/
def Layer.fails : Layer → Bool
  | present | succeeded => false
  | absent | failed _ => true

namespace ReturnType

variable {t : ScalarType}

/-- The layers of a result, the outermost first. One that holds nothing is the last. -/
def layers : (r : ReturnType t) → r.Value → List Layer
  | bare, _ => []
  | optional inner, some value => .present :: inner.layers value
  | optional _, none => [.absent]
  | fallible _ _ inner, .ok value => .succeeded :: inner.layers value
  | fallible _ text _, .error e => [.failed (text e)]

/-- The scalar or pointer inside all layers. -/
def innermost? : (r : ReturnType t) → r.Value → Option t.Value
  | bare, value => some value
  | optional inner, some value => inner.innermost? value
  | optional _, none => none
  | fallible _ _ inner, .ok value => inner.innermost? value
  | fallible _ _ _, .error _ => none

/-- The outermost of the layers that hold nothing. -/
def outermostFailure (r : ReturnType t) (v : r.Value) : Option Layer :=
  (r.layers v).find? Layer.fails

/-- The lines about a result: how important each is, and its text. -/
def told (r : ReturnType t) (v : r.Value) : List (Level × String) :=
  (r.cross v).2.map fun e => (e.level, e.message)

/-- The warning about an error. -/
def warning (message : String) : Level × String :=
  (.warn, "returning sentinel across the boundary: " ++ message)

/-! ## The value -/

theorem innermost?_eq_none_iff (r : ReturnType t) (v : r.Value) :
    r.innermost? v = none ↔ ∃ l ∈ r.layers v, l.fails = true := by
  induction r with
  | bare => simp [innermost?, layers]
  | optional inner ih =>
    cases v with
    | none => simp [innermost?, layers, Layer.fails]
    | some value => simp [innermost?, layers, Layer.fails, ih value]
  | fallible ε text inner ih =>
    cases v with
    | error e => simp [innermost?, layers, Layer.fails]
    | ok value => simp [innermost?, layers, Layer.fails, ih value]

theorem value_cross (r : ReturnType t) (v : r.Value) : (r.cross v).1 =
    match r.innermost? v with
    | some x => t.form x
    | none => t.sentinel := by
  induction r with
  | bare => rfl
  | optional inner ih =>
    cases v with
    | none => rw [cross, inner.crossesAs_eq, innermost?]
    | some value => exact ih value
  | fallible ε text inner ih =>
    cases v with
    | error e => rw [cross, inner.crossesAs_eq, innermost?]
    | ok value => exact ih value

/-! ## The warning -/

theorem events_cross (r : ReturnType t) (v : r.Value) : (r.cross v).2 =
    match r.outermostFailure v with
    | some (.failed m) => [.sentinelReturned m]
    | _ => [] := by
  induction r with
  | bare => rfl
  | optional inner ih =>
    cases v with
    | none => rfl
    | some value => exact ih value
  | fallible ε text inner ih =>
    cases v with
    | error e => rfl
    | ok value => exact ih value

theorem message_sentinelReturned (m : String) :
    (Event.sentinelReturned m).message = "returning sentinel across the boundary: " ++ m := by
  unfold Event.message
  simp only [toString]

theorem told_eq (r : ReturnType t) (v : r.Value) : r.told v =
    match r.outermostFailure v with
    | some (.failed m) => [warning m]
    | _ => [] := by
  rw [told, events_cross]
  split
  · rw [List.map_singleton, message_sentinelReturned]
    rfl
  · rfl

theorem warning_injective {m m' : String} (h : warning m = warning m') : m = m' :=
  (String.append_right_inj _).1 (Prod.mk.inj h).2

theorem fails_of_outermostFailure {r : ReturnType t} {v : r.Value} {l : Layer}
    (h : r.outermostFailure v = some l) : l.fails = true :=
  List.find?_some h

/-! ## Both -/

/-- What crosses for a result, and what is told about it. -/
structure Crosses (r : ReturnType t) (v : r.Value) : Prop where
  /-- If every layer holds something, the value inside crosses, in its form. -/
  content : (∀ l ∈ r.layers v, l.fails = false) →
    ∃ x, r.innermost? v = some x ∧ t.Form x (r.cross v).1
  /-- If one holds nothing, the default of the innermost type crosses. -/
  sentinel : (∃ l ∈ r.layers v, l.fails = true) → t.Default (r.cross v).1
  /-- There is one warning, with the text of an error, exactly if the outermost layer that holds
  nothing failed with that error. -/
  warned_iff : ∀ m, r.told v = [warning m] ↔ r.outermostFailure v = some (.failed m)
  silent_iff : r.told v = [] ↔
    r.outermostFailure v = some .absent ∨ r.outermostFailure v = none
  /-- The calls that know a result by its layers only let the same cross. -/
  untyped : ∀ d, t.Default d → (r.layered v).cross d = r.cross v

/-- Whatever the layers of a result, in any number and any mix, the outermost one that holds
nothing decides what crosses and what is told. -/
theorem outermost_failure_decides (r : ReturnType t) (v : r.Value) : r.Crosses v where
  content hl := by
    have hv := r.value_cross v
    cases hx : r.innermost? v with
    | none =>
      obtain ⟨l, hm, hf⟩ := (r.innermost?_eq_none_iff v).1 hx
      rw [hl l hm] at hf
      cases hf
    | some x =>
      rw [hx] at hv
      refine ⟨x, rfl, ?_⟩
      rw [hv]
      exact t.form_form x
  sentinel hl := by
    rw [value_cross, (r.innermost?_eq_none_iff v).2 hl]
    exact ScalarType.default_iff.2 rfl
  warned_iff m := by
    rw [told_eq]
    split
    · rename_i m' ho
      rw [ho, List.singleton_inj, Option.some.injEq, Layer.failed.injEq]
      exact ⟨warning_injective, congrArg warning⟩
    · rename_i ho
      exact ⟨fun h => absurd h (List.cons_ne_nil _ _).symm, fun h => absurd h (ho m)⟩
  silent_iff := by
    rw [told_eq]
    cases ho : r.outermostFailure v with
    | none => simp
    | some l =>
      have hf := fails_of_outermostFailure ho
      cases l with
      | absent => simp
      | failed m => simp
      | present => cases hf
      | succeeded => cases hf
  untyped d hd := by
    rw [ScalarType.default_iff.1 hd]
    exact cross_layered r v

/-- An address that is optional, or may fail, or may be absent: a failure in the middle. -/
example : (optional (fallible String id (optional bare)) : ReturnType .pointer).cross
    (some (.error "boom")) = (.offset 0, [.sentinelReturned "boom"]) := rfl

end ReturnType

end HandleBridge
