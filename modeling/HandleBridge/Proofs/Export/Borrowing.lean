import HandleBridge.Proofs.Export.Aborts
import HandleBridge.Sample.Node

/-
  Stores in use, and how calls fare then.

  A call asks once whether the store of its type is in use, and nothing else depends on that. So
  at every point of a run there are two kinds of types: those on loan, calls on which are turned
  away, and all others, calls on which fare as they do when no store is in use. A part of a run
  that calls on none of the types on loan cannot tell that there are any (`matched_of_agree`).

  Proved:
  * `exists_run_of_plain`: a script without administrative calls is never aborted.
  * `turnedAway_of_borrowed`, `served_of_free`: the two kinds of types.
  * `matched_of_agree`: marks on stores that a script does not call on make no difference to it.
  * `calls_served_unless_on_loan`: all of it at every point of every run.
-/

namespace HandleBridge

open World

variable {M : Catalog} {α β : Type} {k : Fin M.count} {raw : UInt32} {w w₁ w₂ : World M}
  {P : Fin M.count → Prop}

namespace Script

/-! ## Plain scripts -/

/-- The script makes calls on instances only, each of a type with `P`, and no instance that it
drops has an effect at its end. -/
def Plain (P : Fin M.count → Prop) : {α : Type} → Script M α → Prop
  | _, done _ => True
  | _, after first next => Plain P first ∧ ∀ a, Plain P (next a)
  | _, create k make drop => P k ∧ Plain P make ∧ drop = silentDrop
  | _, withInstance k _ _ body => P k ∧ ∀ v, Plain P (body v)
  | _, take k _ _ _ body => P k ∧ ∀ v, Plain P (body v)
  | _, allocator => True
  | _, note _ => True
  | _, liveInstances _ => False
  | _, configure _ _ => False

theorem Insists.not_plain {s : Script M α} (hi : s.Insists k) : ¬ s.Plain P := by
  cases hi with
  | liveInstances k => exact id
  | configure k limit => exact id

/-- All parts of the run of a plain script are plain. -/
theorem Within.plain {s : Script M α} {used : List (Fin M.count)} {s' : Script M β}
    (p : Within s w₁ used s' w₂) (hs : s.Plain P) : s'.Plain P := by
  induction p with
  | here s w => exact hs
  | first p ih => exact ih hs.1
  | next hr p ih => exact ih (hs.2 _)
  | make p ih => exact ih hs.2.1
  | drop hr hc p ih =>
    obtain ⟨-, -, rfl⟩ := hs
    exact ih trivial
  | method hb hg p ih => exact ih (hs.2 _)
  | departure hv p ih => exact ih (hs.2 _)

/-- A script without administrative calls always comes to its end. -/
theorem exists_run_of_plain {s : Script M α} (hs : s.Plain P) (w : World M) :
    ∃ o, run s w = .ok o := by
  refine exists_run_of_not_insistsWithin fun k => ?_
  rintro ⟨β, used, s', w', p, hi, -⟩
  exact hi.not_plain (p.plain hs)

/-! ## Types on loan -/

/-- Calls on this type are turned away before they touch an instance, and its store stays as it
is whatever is called. -/
structure TurnedAway (k : Fin M.count) (w : World M) : Prop where
  method : ∀ {α : Type} (raw : UInt32) (sentinel : α)
    (body : M.Value k → Script M (M.Value k × Layered α)),
    run (withInstance k raw sentinel body) w =
      .ok ⟨sentinel, w, [.callRejected (M.name k) .reentrant]⟩
  departure : ∀ {α : Type} (how : Departure) (raw : UInt32) (sentinel : α)
    (body : M.Value k → Script M (Layered α)),
    run (take k how raw sentinel body) w =
      .ok ⟨sentinel, w, [.departureIgnored how (M.name k) .reentrant]⟩
  /-- The instance is made all the same. -/
  creation : ∀ {make : Script M (M.Value k)} {o : Outcome M (M.Value k)}, run make w = .ok o →
    run (create k make silentDrop) w =
      .ok ⟨invalidHandle, o.world, o.events ++ [.creationFailed (M.name k) .reentrant]⟩
  store_eq : ∀ {α : Type} {s : Script M α} {o : Outcome M α}, run s w = .ok o →
    o.world.store k = w.store k

theorem turnedAway_of_borrowed (hb : w.isBorrowed k = true) : TurnedAway k w where
  method _ _ _ := run_withInstance_of_borrowed hb
  departure how raw sentinel body := by
    have he : w.remove k raw = _ := remove_of_borrowed hb
    rw [run_take_eq, he]
    rfl
  creation {make o} hm := by
    have he := register_of_borrowed (v := o.value) ((isBorrowed_of_run hm k).trans hb)
    rw [run_create_of_refused hm (congrArg Step.result he), he]
    dsimp only [Step.failed]
    rw [List.append_nil]
  store_eq {_ s _} hr := (course_of_run s w hr).store_of_borrowed hb

/-! ## All other types -/

/-- An instance finds no place because there are too many, or because memory is refused. -/
theorem cause_of_insert_error {s : Store α} {heap : Allocator} {v : α} {cause : Fault}
    (he : (s.insert heap v).result = .error cause) :
    cause = s.exhausted ∨ cause = .outOfMemory s.slotBytes := by
  unfold Store.insert at he
  by_cases hl : s.limit.max ≤ s.live
  · rw [if_pos hl] at he
    cases he
    exact Or.inl rfl
  rw [if_neg hl] at he
  cases hf : s.free with
  | cons i rest =>
    rw [hf] at he
    dsimp only at he
    cases hn : Handle.new? i (s.generationAt i) with
    | some h =>
      rw [hn] at he
      cases he
    | none =>
      rw [hn] at he
      cases he
      exact Or.inl rfl
  | nil =>
    rw [hf] at he
    dsimp only at he
    cases hn : Handle.new? s.slots.size 0 with
    | none =>
      rw [hn] at he
      cases he
      exact Or.inl rfl
    | some h =>
      rw [hn] at he
      dsimp only at he
      by_cases hm : s.mayGrow heap
      · rw [if_pos hm] at he
        cases he
      · rw [if_neg hm] at he
        cases he
        exact Or.inr rfl

theorem insert_ne_reentrant {s : Store α} {heap : Allocator} {v : α} {cause : Fault}
    (he : (s.insert heap v).result = .error cause) : cause ≠ .reentrant := by
  rintro rfl
  rcases cause_of_insert_error he with hc | hc
  all_goals cases hc

theorem get_eq_error {cause : Fault} (he : (w.store k).get raw = .error cause) :
    cause = .invalidHandle raw := by
  unfold Store.get at he
  split at he
  · cases he
  · cases he
    rfl

theorem remove_of_get {v : M.Value k} (hg : (w.store k).get raw = .ok v) :
    ((w.store k).remove raw).result = .ok v := by
  obtain ⟨h, hl⟩ := lookup_of_get hg
  exact (Store.remove_ok hl).1

theorem remove_of_get_error {cause : Fault} (hg : (w.store k).get raw = .error cause) :
    (w.store k).remove raw = .failed cause (w.store k) [] := by
  have hc := get_eq_error hg
  unfold Store.get at hg
  split at hg
  · cases hg
  · rename_i hl
    rw [Store.remove_error hl, hc]

/-- Calls on this type find a live instance or none, a place or none, and nothing else decides. No
answer is that the store is in use. -/
structure Served (k : Fin M.count) (w : World M) : Prop where
  method_live : ∀ {α : Type} {raw : UInt32} {sentinel : α}
    {body : M.Value k → Script M (M.Value k × Layered α)} {v : M.Value k}
    {o : Outcome M (M.Value k × Layered α)},
    (w.store k).get raw = .ok v → run (body v) (w.setBorrowed k true) = .ok o →
      run (withInstance k raw sentinel body) w =
        .ok ⟨(o.value.2.cross sentinel).1, giveBack o.world k raw o.value.1,
          o.events ++ (o.value.2.cross sentinel).2⟩
  method_dead : ∀ {α : Type} {raw : UInt32} {sentinel : α}
    {body : M.Value k → Script M (M.Value k × Layered α)} {cause : Fault},
    (w.store k).get raw = .error cause → cause = .invalidHandle raw ∧
      run (withInstance k raw sentinel body) w =
        .ok ⟨sentinel, w, [.callRejected (M.name k) cause]⟩
  departure_live : ∀ {α : Type} {how : Departure} {raw : UInt32} {sentinel : α}
    {body : M.Value k → Script M (Layered α)} {v : M.Value k} {o : Outcome M (Layered α)},
    (w.store k).get raw = .ok v →
      run (body v) (w.withStore k ((w.store k).remove raw).state) = .ok o →
        run (take k how raw sentinel body) w =
          .ok ⟨(o.value.cross sentinel).1, o.world, ((w.store k).remove raw).events ++
            .departed how (M.name k) raw :: o.events ++ (o.value.cross sentinel).2⟩
  departure_dead : ∀ {α : Type} {how : Departure} {raw : UInt32} {sentinel : α}
    {body : M.Value k → Script M (Layered α)} {cause : Fault},
    (w.store k).get raw = .error cause → cause = .invalidHandle raw ∧
      run (take k how raw sentinel body) w =
        .ok ⟨sentinel, w, [.departureIgnored how (M.name k) cause]⟩
  creation_made : ∀ {make : Script M (M.Value k)} {drop : M.Value k → Script M Unit}
    {o : Outcome M (M.Value k)} {h : Handle}, run make w = .ok o →
      ((o.world.store k).insert o.world.heap.allocator o.value).result = .ok h →
        run (create k make drop) w = .ok ⟨h.raw, (o.world.insert k o.value).state,
          o.events ++ (o.world.insert k o.value).events ++ [.created (M.name k) h]⟩
  creation_refused : ∀ {make : Script M (M.Value k)} {o : Outcome M (M.Value k)} {cause : Fault},
    run make w = .ok o →
      ((o.world.store k).insert o.world.heap.allocator o.value).result = .error cause →
        cause ≠ .reentrant ∧ run (create k make silentDrop) w =
          .ok ⟨invalidHandle, (o.world.insert k o.value).state,
            o.events ++ (o.world.insert k o.value).events ++ [.creationFailed (M.name k) cause]⟩

theorem served_of_free (hb : w.isBorrowed k = false) : Served k w where
  method_live := run_withInstance_of_ok hb
  method_dead hg := ⟨get_eq_error hg, run_withInstance_of_error hb hg⟩
  departure_live {_ _ raw _ body v o} hg hr := by
    have he : w.remove k raw = _ := remove_of_free hb
    have hv : (w.remove k raw).result = .ok v := by
      rw [he]
      exact remove_of_get hg
    have hr' : run (body v) (w.remove k raw).state = .ok o := by
      rw [he]
      exact hr
    rw [run_take_of_removed hv hr', he]
  departure_dead {_ _ raw _ _ _} hg := by
    have he : w.remove k raw = _ := remove_of_free hb
    rw [remove_of_get_error hg] at he
    refine ⟨get_eq_error hg, ?_⟩
    rw [run_take_eq, he]
    dsimp only [Step.failed]
    rw [withStore_store, List.nil_append]
  creation_made {_ _ o h} hm hi := by
    have he := register_of_free (v := o.value) ((isBorrowed_of_run hm k).trans hb)
    have hr : (o.world.register k o.value).result = .ok h := by
      rw [he, insert_eq]
      exact hi
    rw [run_create_of_registered hm hr, he]
  creation_refused {_ o cause} hm hi := by
    have he := register_of_free (v := o.value) ((isBorrowed_of_run hm k).trans hb)
    have hr : (o.world.register k o.value).result = .error cause := by
      rw [he, insert_eq]
      exact hi
    rw [run_create_of_refused hm hr, he]
    exact ⟨insert_ne_reentrant hi, rfl⟩

/-! ## Marks that make no difference -/

/-- The worlds have the same stores, and the same marks on stores of types with `P`. -/
structure Agree (P : Fin M.count → Prop) (w₁ w₂ : World M) : Prop where
  heap_eq : w₂.heap = w₁.heap
  store_eq : ∀ k, w₂.store k = w₁.store k
  isBorrowed_eq : ∀ k, P k → w₂.isBorrowed k = w₁.isBorrowed k

namespace Agree

theorem ticked (a : Agree P w₁ w₂) : Agree P w₁.ticked w₂.ticked :=
  ⟨congrArg Heap.tick a.heap_eq, a.store_eq, a.isBorrowed_eq⟩

theorem withStore (a : Agree P w₁ w₂) (s : Store (M.Value k)) :
    Agree P (w₁.withStore k s) (w₂.withStore k s) where
  heap_eq := a.heap_eq
  store_eq j := by
    by_cases hj : j = k
    · subst hj
      rw [store_withStore, store_withStore]
    · rw [store_withStore_other _ _ hj, store_withStore_other _ _ hj, a.store_eq]
  isBorrowed_eq j hp := by
    rw [isBorrowed_withStore, isBorrowed_withStore, a.isBorrowed_eq j hp]

theorem setBorrowed (a : Agree P w₁ w₂) (k : Fin M.count) (b : Bool) :
    Agree P (w₁.setBorrowed k b) (w₂.setBorrowed k b) where
  heap_eq := a.heap_eq
  store_eq j := by rw [store_setBorrowed, store_setBorrowed, a.store_eq]
  isBorrowed_eq j hp := by
    by_cases hj : j = k
    · subst hj
      rw [isBorrowed_setBorrowed_same, isBorrowed_setBorrowed_same]
    · rw [isBorrowed_setBorrowed_other _ hj, isBorrowed_setBorrowed_other _ hj,
        a.isBorrowed_eq j hp]

theorem giveBack (a : Agree P w₁ w₂) (raw : UInt32) (v : M.Value k) :
    Agree P (Script.giveBack w₁ k raw v) (Script.giveBack w₂ k raw v) := by
  rw [giveBack_eq, giveBack_eq, a.store_eq]
  exact (a.withStore _).setBorrowed k false

theorem register (a : Agree P w₁ w₂) (hk : P k) (v : M.Value k) :
    (w₂.register k v).result = (w₁.register k v).result ∧
      (w₂.register k v).events = (w₁.register k v).events ∧
      Agree P (w₁.register k v).state (w₂.register k v).state := by
  have hb := a.isBorrowed_eq k hk
  cases h₁ : w₁.isBorrowed k with
  | true =>
    rw [register_of_borrowed h₁, register_of_borrowed (hb.trans h₁)]
    exact ⟨rfl, rfl, a⟩
  | false =>
    rw [register_of_free h₁, register_of_free (hb.trans h₁), insert_eq, insert_eq, a.store_eq,
      a.heap_eq]
    exact ⟨rfl, rfl, a.ticked.withStore _⟩

theorem remove (a : Agree P w₁ w₂) (hk : P k) (raw : UInt32) :
    (w₂.remove k raw).result = (w₁.remove k raw).result ∧
      (w₂.remove k raw).events = (w₁.remove k raw).events ∧
      Agree P (w₁.remove k raw).state (w₂.remove k raw).state := by
  have hb := a.isBorrowed_eq k hk
  cases h₁ : w₁.isBorrowed k with
  | true =>
    rw [remove_of_borrowed h₁, remove_of_borrowed (hb.trans h₁)]
    exact ⟨rfl, rfl, a⟩
  | false =>
    rw [remove_of_free h₁, remove_of_free (hb.trans h₁), a.store_eq]
    exact ⟨rfl, rfl, a.withStore _⟩

theorem configure (a : Agree P w₁ w₂) (limit : StoreLimit) :
    Agree P (w₁.configure k limit) (w₂.configure k limit) := by
  unfold World.configure
  rw [onStore_eq, onStore_eq, a.store_eq]
  exact a.withStore _

end Agree

/-- All calls of the script, those that instances make at their end included, are on types with
`P`. -/
def CallsOn (P : Fin M.count → Prop) : {α : Type} → Script M α → Prop
  | _, done _ => True
  | _, after first next => CallsOn P first ∧ ∀ a, CallsOn P (next a)
  | _, create k make drop => P k ∧ CallsOn P make ∧ ∀ v, CallsOn P (drop v)
  | _, withInstance k _ _ body => P k ∧ ∀ v, CallsOn P (body v)
  | _, take k _ _ _ body => P k ∧ ∀ v, CallsOn P (body v)
  | _, allocator => True
  | _, note _ => True
  | _, liveInstances k => P k
  | _, configure k _ => P k

theorem Plain.callsOn {s : Script M α} (hs : s.Plain P) : s.CallsOn P := by
  induction s with
  | done value => trivial
  | after first next ihf ihn => exact ⟨ihf hs.1, fun b => ihn b (hs.2 b)⟩
  | create k make drop ihm ihd =>
    obtain ⟨hk, hm, rfl⟩ := hs
    exact ⟨hk, ihm hm, fun _ => trivial⟩
  | withInstance k raw sentinel body ih => exact ⟨hs.1, fun v => ih v (hs.2 v)⟩
  | take k how raw sentinel body ih => exact ⟨hs.1, fun v => ih v (hs.2 v)⟩
  | allocator => trivial
  | note event => trivial
  | liveInstances k => exact hs.elim
  | configure k limit => exact hs.elim

/-- Two runs end alike: with the same outcome but for the marks, or with the same abort. -/
inductive Matched (P : Fin M.count → Prop) :
    Except (Abort M) (Outcome M α) → Except (Abort M) (Outcome M α) → Prop where
  | ok {v : α} {es : List Event} {w₁ w₂ : World M} :
      Agree P w₁ w₂ → Matched P (.ok ⟨v, w₁, es⟩) (.ok ⟨v, w₂, es⟩)
  | error (a : Abort M) : Matched P (.error a) (.error a)

theorem matched_after {first : Script M β} {next : β → Script M α}
    (hf : Matched P (run first w₁) (run first w₂))
    (hn : ∀ b {v₁ v₂ : World M}, Agree P v₁ v₂ → Matched P (run (next b) v₁) (run (next b) v₂)) :
    Matched P (run (after first next) w₁) (run (after first next) w₂) := by
  rw [run, run]
  generalize run first w₁ = r₁ at hf ⊢
  generalize run first w₂ = r₂ at hf ⊢
  cases hf with
  | error a => exact .error a
  | @ok b es v₁ v₂ a =>
    have hb := hn b a
    dsimp only
    generalize run (next b) v₁ = q₁ at hb ⊢
    generalize run (next b) v₂ = q₂ at hb ⊢
    cases hb with
    | error a => exact .error a
    | ok a => exact .ok a

theorem matched_create {make : Script M (M.Value k)} {drop : M.Value k → Script M Unit}
    (hk : P k) (hm : Matched P (run make w₁) (run make w₂))
    (hd : ∀ v {v₁ v₂ : World M}, Agree P v₁ v₂ → Matched P (run (drop v) v₁) (run (drop v) v₂)) :
    Matched P (run (create k make drop) w₁) (run (create k make drop) w₂) := by
  rw [run_create_eq, run_create_eq]
  generalize run make w₁ = r₁ at hm ⊢
  generalize run make w₂ = r₂ at hm ⊢
  cases hm with
  | error a => exact .error a
  | @ok v es v₁ v₂ a =>
    obtain ⟨hr, he, a'⟩ := a.register hk v
    have hv := hd v (a'.setBorrowed k true)
    dsimp only
    rw [hr, he, a.isBorrowed_eq k hk]
    cases (v₁.register k v).result with
    | ok h => exact .ok a'
    | error cause =>
      dsimp only
      generalize run (drop v) ((v₁.register k v).state.setBorrowed k true) = q₁ at hv ⊢
      generalize run (drop v) ((v₂.register k v).state.setBorrowed k true) = q₂ at hv ⊢
      cases hv with
      | error a => exact .error a
      | ok b => exact .ok (b.setBorrowed k _)

theorem matched_withInstance {sentinel : α} {body : M.Value k → Script M (M.Value k × Layered α)}
    (hk : P k) (a : Agree P w₁ w₂) (hv : ∀ v, Matched P (run (body v) (w₁.setBorrowed k true))
      (run (body v) (w₂.setBorrowed k true))) :
    Matched P (run (withInstance k raw sentinel body) w₁)
      (run (withInstance k raw sentinel body) w₂) := by
  rw [run, run, a.isBorrowed_eq k hk, a.store_eq k]
  by_cases hb : w₁.isBorrowed k
  · rw [if_pos hb, if_pos hb]
    exact .ok a
  · rw [if_neg hb, if_neg hb]
    cases (w₁.store k).get raw with
    | error cause => exact .ok a
    | ok v =>
      have hv := hv v
      dsimp only
      generalize run (body v) (w₁.setBorrowed k true) = q₁ at hv ⊢
      generalize run (body v) (w₂.setBorrowed k true) = q₂ at hv ⊢
      cases hv with
      | error a => exact .error a
      | @ok r _ _ _ b => exact .ok (b.giveBack raw r.1)

theorem matched_take {how : Departure} {sentinel : α} {body : M.Value k → Script M (Layered α)}
    (hk : P k) (a : Agree P w₁ w₂) (hv : ∀ v, Matched P (run (body v) (w₁.remove k raw).state)
      (run (body v) (w₂.remove k raw).state)) :
    Matched P (run (take k how raw sentinel body) w₁)
      (run (take k how raw sentinel body) w₂) := by
  obtain ⟨hr, he, a'⟩ := a.remove hk raw
  rw [run_take_eq, run_take_eq, hr, he]
  cases (w₁.remove k raw).result with
  | error cause => exact .ok a'
  | ok v =>
    have hv := hv v
    dsimp only
    generalize run (body v) (w₁.remove k raw).state = q₁ at hv ⊢
    generalize run (body v) (w₂.remove k raw).state = q₂ at hv ⊢
    cases hv with
    | error a => exact .error a
    | ok b => exact .ok b

/-- A script cannot tell marks on stores that it does not call on. -/
theorem matched_of_agree {s : Script M α} (hs : s.CallsOn P) (a : Agree P w₁ w₂) :
    Matched P (run s w₁) (run s w₂) := by
  induction s generalizing w₁ w₂ with
  | done value => exact .ok a
  | after first next ihf ihn => exact matched_after (ihf hs.1 a) fun b _ _ => ihn b (hs.2 b)
  | create k make drop ihm ihd =>
    exact matched_create hs.1 (ihm hs.2.1 a) fun v _ _ => ihd v (hs.2.2 v)
  | withInstance k raw sentinel body ih =>
    exact matched_withInstance hs.1 a fun v => ih v (hs.2 v) (a.setBorrowed k true)
  | take k how raw sentinel body ih =>
    exact matched_take hs.1 a fun v => ih v (hs.2 v) (a.remove hs.1 raw).2.2
  | allocator =>
    have ha : w₂.heap.allocator = w₁.heap.allocator := congrArg Heap.allocator a.heap_eq
    show Matched P (.ok ⟨_, w₁.ticked, []⟩) (.ok ⟨_, w₂.ticked, []⟩)
    rw [ha]
    exact .ok a.ticked
  | note event => exact .ok a
  | liveInstances k =>
    rw [run, run, a.isBorrowed_eq k hs, World.live, World.live, a.store_eq k]
    split
    · exact .error _
    · exact .ok a
  | configure k limit =>
    rw [run, run, a.isBorrowed_eq k hs]
    split
    · exact .error _
    · exact .ok (a.configure limit)

/-- The script comes to its end in either world, with the same outcome, but for the marks. -/
def Alike (P : Fin M.count → Prop) (s : Script M α) (w₁ w₂ : World M) : Prop :=
  ∃ o₁ o₂, run s w₁ = .ok o₁ ∧ run s w₂ = .ok o₂ ∧ o₂.value = o₁.value ∧
    o₂.events = o₁.events ∧ Agree P o₁.world o₂.world

theorem alike_of_agree {s : Script M α} (hs : s.Plain P) (a : Agree P w₁ w₂) :
    Alike P s w₁ w₂ := by
  obtain ⟨o, ho⟩ := exists_run_of_plain hs w₁
  have hm := matched_of_agree hs.callsOn a
  rw [ho] at hm
  cases h₂ : run s w₂ with
  | error b =>
    rw [h₂] at hm
    cases hm
  | ok o₂ =>
    rw [h₂] at hm
    cases hm with
    | ok a' => exact ⟨_, _, ho, h₂, rfl, rfl, a'⟩

end Script

/-! ## Every point of every run -/

/-- The world with the same stores, of which none is in use. -/
def World.released (w : World M) : World M :=
  { w with cells := Cells.tabulate fun k => ⟨w.store k, false⟩ }

theorem World.store_released (w : World M) (k : Fin M.count) : w.released.store k = w.store k := by
  show ((Cells.tabulate _).get k).store = _
  rw [Cells.get_tabulate]

theorem World.idle_released (w : World M) : w.released.Idle := by
  intro k
  show ((Cells.tabulate _).get k).borrowed = _
  rw [Cells.get_tabulate]

namespace Script

theorem agree_released (hP : ∀ k, P k → w.isBorrowed k = false) : Agree P w w.released where
  heap_eq := rfl
  store_eq := w.store_released
  isBorrowed_eq k hp := (w.idle_released k).trans (hP k hp).symm

/-- How calls fare at a point of a run where the stores `used` are on loan. -/
structure Disciplined (used : List (Fin M.count)) (w : World M) : Prop where
  turnedAway : ∀ k ∈ used, TurnedAway k w
  served : ∀ k, k ∉ used → Served k w
  /-- Whatever is called, a plain script comes to its end. -/
  ends : ∀ {α : Type} {s : Script M α}, (s.Plain fun _ => True) → ∃ o, run s w = .ok o
  /-- A script that calls on none of the types on loan ends as it would with no store in use. -/
  alike : ∀ {α : Type} {s : Script M α}, s.Plain (· ∉ used) → Alike (· ∉ used) s w w.released

theorem disciplined_of_iff {used : List (Fin M.count)}
    (hb : ∀ k, w.isBorrowed k = true ↔ k ∈ used) : Disciplined used w := by
  have free : ∀ k, k ∉ used → w.isBorrowed k = false :=
    fun k hk => Bool.eq_false_iff.2 fun h => hk ((hb k).1 h)
  exact ⟨fun k hk => turnedAway_of_borrowed ((hb k).2 hk), fun k hk => served_of_free (free k hk),
    fun hs => exists_run_of_plain hs w, fun hs => alike_of_agree hs (agree_released free)⟩

/-- A call is turned away exactly while a method has the store of its type on loan, and otherwise
fares as it does when no store is in use; at the end none is. -/
theorem calls_served_unless_on_loan {s : Script M α} (hs : s.Plain fun _ => True) (hw : w.Idle) :
    (∃ o, run s w = .ok o ∧ o.world.Idle ∧ ∀ k, Served k o.world) ∧
      ∀ {β : Type} {used : List (Fin M.count)} {s' : Script M β} {w' : World M},
        Within s w used s' w' → Disciplined used w' := by
  constructor
  · obtain ⟨o, hr⟩ := exists_run_of_plain hs w
    have hi : o.world.Idle := fun k => (isBorrowed_of_run hr k).trans (hw k)
    exact ⟨o, hr, hi, fun k => served_of_free (hi k)⟩
  · intro β used s' w' p
    refine disciplined_of_iff fun k => ?_
    rw [p.isBorrowed_iff, hw k]
    exact or_iff_right Bool.false_ne_true

open Sample in
/-- A node asked to detach itself while a method has it on loan stays. -/
theorem nested_detach_turned_away :
    ∃ (w w' : World catalog) (o : Outcome catalog UInt64),
    Within (Node.nest 1 3 1) w [nodeType] (Node.detach 1) w' ∧ Disciplined [nodeType] w' ∧
      run (Node.nest 1 3 1) w = .ok o ∧ o.value = 0 ∧ o.world.Idle := by
  obtain ⟨o, ho⟩ : ∃ o, run (Node.create 0) (World.empty catalog (Heap.capped 8388608)) = .ok o :=
    ⟨_, rfl⟩
  have hw : o.world.Idle := fun k => (isBorrowed_of_run ho k).trans (isBorrowed_empty _ k)
  have hg : (o.world.store nodeType).get 1 = .ok (⟨0, 0⟩ : Node) := by
    cases ho
    rfl
  have hs : (Node.nest 1 3 1).Plain fun _ => True :=
    ⟨trivial, fun _ => ⟨⟨⟨trivial, fun _ => ⟨⟨trivial, fun _ => trivial⟩, fun _ => trivial⟩⟩,
      fun _ => trivial⟩, fun _ => trivial⟩⟩
  have hd := calls_served_unless_on_loan hs hw
  obtain ⟨p, hp, hi, -⟩ := hd.1
  have hn : Within (Node.nest 1 3 1) o.world [nodeType] (Node.detach 1)
      (o.world.setBorrowed nodeType true) :=
    .method (hw nodeType) hg (.first (.first (.here _ _)))
  have ht := (hd.2 hn).turnedAway nodeType (List.mem_singleton_self _)
  obtain ⟨es, h₁⟩ : ∃ es, run (Node.detach 1) (o.world.setBorrowed nodeType true) =
      .ok ⟨0, o.world.setBorrowed nodeType true, es⟩ := ⟨_, ht.departure _ _ _ _⟩
  have h₂ : run (after (Node.nested 3 1) fun r => pure ((⟨0, 0⟩ : Node), Layered.bare r))
      (o.world.setBorrowed nodeType true) =
        .ok ⟨(⟨0, 0⟩, Layered.bare 0), o.world.setBorrowed nodeType true, es ++ [] ++ []⟩ := by
    show run (after (after (Node.detach 1) fun d => done d.toUInt64) _) _ = _
    rw [run, run, h₁]
    rfl
  have h₃ : run (withInstance nodeType 1 0 fun (n : Node) =>
      after (Node.nested 3 1) fun r => pure (n, Layered.bare r)) o.world = _ :=
    run_withInstance_of_ok (hw nodeType) hg h₂
  have hz : p.value = 0 := by
    have he : run (Node.nest 1 3 1) o.world = _ := h₃
    rw [hp] at he
    cases he
    rfl
  exact ⟨_, _, p, hn, hd.2 hn, hp, hz, hi⟩

end Script

end HandleBridge
