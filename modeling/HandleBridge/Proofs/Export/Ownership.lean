import HandleBridge.Proofs.Export.Borrowing

/-
  Who owns an instance.

  An instance that was registered belongs to its store until a method receives it, and then to
  that method. Seen from its store a run is a trail, however deep its calls are nested, so the
  ledger of the store is kept; it says that handles and instances never part and never meet
  again.

  Proved:
  * `exists_run_of_guarded`: a script whose administrative calls find no store on loan ends.
  * `Session.ledger`: every store keeps its ledger through any sequence of outermost calls.
  * `dead_of_take`: after a method received an instance its handle is dead, whatever the method
    did in the meantime.
  * `instances_are_owned_once`: all of it between outermost calls.
-/

namespace HandleBridge.Script

open World

variable {M : Catalog} {α : Type} {k : Fin M.count} {raw : UInt32} {w : World M}

/-! ## Scripts that end -/

/-- Administrative calls are made only where no store is on loan. -/
def Guarded : {α : Type} → Script M α → Prop
  | _, done _ => True
  | _, after first next => Guarded first ∧ ∀ a, Guarded (next a)
  | _, create _ make drop => Guarded make ∧ ∀ v, (drop v).Plain fun _ => True
  | _, withInstance _ _ _ body => ∀ v, (body v).Plain fun _ => True
  | _, take _ _ _ _ body => ∀ v, Guarded (body v)
  | _, allocator => True
  | _, note _ => True
  | _, liveInstances _ => True
  | _, configure _ _ => True

theorem idle_of_run {s : Script M α} {o : Outcome M α} (hr : run s w = .ok o) (hw : w.Idle) :
    o.world.Idle := fun k => (isBorrowed_of_run hr k).trans (hw k)

/-- While the run of a guarded script makes an administrative call, no store is on loan. -/
theorem Within.eq_nil_of_insists {β : Type} {s : Script M α} {used : List (Fin M.count)}
    {s' : Script M β} {w' : World M} (p : Within s w used s' w') (hs : s.Guarded)
    (hi : s'.Insists k) : used = [] := by
  induction p with
  | here s w => rfl
  | first p ih => exact ih hs.1 hi
  | next hr p ih => exact ih (hs.2 _) hi
  | make p ih => exact ih hs.1 hi
  | drop hr hc p ih => exact absurd (p.plain (hs.2 _)) hi.not_plain
  | method hb hg p ih => exact absurd (p.plain (hs _)) hi.not_plain
  | departure hv p ih => exact ih (hs _) hi

theorem exists_run_of_guarded {s : Script M α} (hs : s.Guarded) (hw : w.Idle) :
    ∃ o, run s w = .ok o := by
  refine exists_run_of_not_insistsWithin fun k => ?_
  rintro ⟨β, used, s', w', p, hi, hb⟩
  have hk : k ∈ used := (p.isBorrowed_iff_mem hw k).1 hb
  rw [p.eq_nil_of_insists hs hi] at hk
  cases hk

/-! ## After a departure -/

/-- After a method received an instance its handle is dead, whatever the method did. -/
theorem dead_of_take {how : Departure} {sentinel : α} {body : M.Value k → Script M (Layered α)}
    {o : Outcome M α} (hw : w.WellFormed) (hb : w.isBorrowed k = false)
    (hr : run (take k how raw sentinel body) w = .ok o) :
    (o.world.store k).contains raw = false := by
  rcases run_take_cases hr with ⟨cause, hc, ho, -⟩ | ⟨v, o₁, he, h₁, ho, -⟩
  · rw [ho, state_of_remove_error hc]
    rw [remove_of_free hb] at hc
    cases hl : (w.store k).lookup raw with
    | none =>
      unfold Store.contains
      rw [hl]
      rfl
    | some p =>
      rw [(Store.remove_ok hl).1] at hc
      cases hc
  · obtain ⟨-, ⟨h, hl⟩, hs⟩ := lookup_of_remove he
    have hw₁ := (Course.of_remove he).wellFormed hw
    have c := course_of_run _ _ h₁
    -- the place of the handle is past it, and places only grow older
    have hover : Store.Over h ((w.remove k raw).state.store k) := by
      rw [hs, store_withStore]
      exact Nat.le_of_eq ((Store.remove_ok hl).2.age_after (hw k)).symm
    have hdead := (hover.mono ((c.trail hw₁ k).older (hw₁ k))).lookup_eq_none
    rw [Store.raw_of_lookup hl] at hdead
    unfold Store.contains
    rw [ho, hdead]
    rfl

/-! ## Sessions -/

/-- Whatever is called from outside, one call after another, with the moves so far. -/
inductive Session (heap : Heap) : Moves M → World M → Prop where
  | start : Session heap [] (World.empty M heap)
  | call {past : Moves M} {w : World M} {α : Type} {s : Script M α} {o : Outcome M α}
      (before : Session heap past w) (played : run s w = .ok o) :
      Session heap (past ++ moves s w) o.world

namespace Session

variable {heap : Heap} {past : Moves M}

theorem idle (h : Session heap past w) : w.Idle := by
  induction h with
  | start => exact fun k => isBorrowed_empty heap k
  | call before played ih => exact idle_of_run played ih

theorem ledger (h : Session heap past w) (k : Fin M.count) :
    Store.Ledger (movesOn k past) (w.store k) := by
  induction h generalizing k with
  | start =>
    rw [store_empty]
    exact Store.ledger_empty _ _
  | @call past w α s o before played ih =>
    have hw : w.WellFormed := fun j => (ih j).wellFormed
    rw [movesOn_append]
    exact ((course_of_run s w played).trail hw k).ledger (ih k)

theorem wellFormed (h : Session heap past w) : w.WellFormed := fun k => (h.ledger k).wellFormed

end Session

/-- The instances of one type between outermost calls, when `past` is what happened to them. -/
structure Owned (past : List (Move α)) (s : Store α) : Prop where
  /-- Registered and received in a past without duplicates, and received as what they were. -/
  orderly : Orderly past
  /-- A handle that was registered is live, or its instance was received, but never both. -/
  live_iff : ∀ raw, s.contains raw = true ↔ raw ∈ registered past ∧ raw ∉ received past
  /-- A live handle still has its instance. -/
  get_iff : ∀ raw v, s.get raw = .ok v ↔ held past raw = some v
  live_eq : s.live = (registered past).length - (received past).length
  received_le : (received past).length ≤ (registered past).length

theorem owned_of_ledger {past : List (Move α)} {s : Store α} (l : s.Ledger past) :
    Owned past s where
  orderly := l.orderly
  live_iff raw := by
    rw [← l.orderly.held_iff, ← l.lookup_eq, Store.lookup_contents, Option.isSome_map]
    rfl
  get_iff raw v := by
    rw [← l.lookup_eq, Store.get_eq_contents]
    cases s.contents.lookup raw with
    | none =>
      constructor
      · exact fun e => nomatch e
      · exact fun e => nomatch e
    | some u =>
      constructor
      · exact fun e => congrArg some (Except.ok.inj e)
      · exact fun e => congrArg Except.ok (Option.some.inj e)
  live_eq := Nat.eq_sub_of_add_eq l.count
  received_le := Nat.le.intro ((Nat.add_comm _ _).trans l.count)

/-- What holds of the instances of one type between outermost calls, after the moves `past`. -/
structure OwnedOnce (past : Moves M) (w : World M) (k : Fin M.count) : Prop where
  owned : Owned (movesOn k past) (w.store k)
  /-- As many are live as were registered and not received. -/
  live_instances : run (liveInstances k) w = .ok ⟨(registered (movesOn k past)).length -
    (received (movesOn k past)).length, w, []⟩
  answered : ∀ {α : Type} {s : Script M α}, s.Guarded → ∃ o, run s w = .ok o
  /-- What the next call does to instances is what it and the calls inside it make of them: a handle
  that a creation answers is registered with the instance that was made, and an instance that is
  received was given to a method. -/
  moves_iff : ∀ {α : Type} {s : Script M α} {o : Outcome M α} {m : Σ k, Move (M.Value k)},
    run s w = .ok o → (m ∈ moves s w ↔ Made s w m)
  /-- A handle is dead when the method that received its instance returns, whatever the method
  did. -/
  dead : ∀ {α β : Type} {s : Script M α} {used : List (Fin M.count)}
    {how : Departure} {raw : UInt32} {sentinel : β} {body : M.Value k → Script M (Layered β)}
    {w' : World M} {o : Outcome M β}, Within s w used (take k how raw sentinel body) w' →
      k ∉ used → run (take k how raw sentinel body) w' = .ok o →
        (o.world.store k).contains raw = false

theorem instances_are_owned_once {heap : Heap} {past : Moves M} {w : World M}
    (h : Session heap past w) (k : Fin M.count) : OwnedOnce past w k where
  owned := owned_of_ledger (h.ledger k)
  live_instances := by
    rw [run, if_neg (Bool.eq_false_iff.1 (h.idle k)),
      ← (owned_of_ledger (h.ledger k)).live_eq]
    rfl
  answered hs := exists_run_of_guarded hs h.idle
  moves_iff hr := mem_moves_iff hr
  dead := by
    intro α β s used how raw sentinel body w' o p hk hr
    refine dead_of_take (p.wellFormed h.wellFormed) (Bool.eq_false_iff.2 fun hb => ?_) hr
    rcases (p.isBorrowed_iff k).1 hb with hw | hu
    · rw [h.idle k] at hw
      cases hw
    · exact hk hu

open Sample in
/-- A node that ends makes another one in its place; its own handle stays dead. -/
theorem place_taken_again_meanwhile :
    let heap := Heap.capped 8388608
    let replaced : Script catalog Unit :=
      .after (Node.create 0) fun raw =>
        .take nodeType .destroy raw () fun _ => .after (Node.create 0) fun _ => .done (.bare ())
    let past := moves replaced (World.empty catalog heap)
    ∃ w, Session heap past w ∧ OwnedOnce past w nodeType ∧
      registered (movesOn nodeType past) = [1, 65537] ∧
      received (movesOn nodeType past) = [1] ∧ (w.store nodeType).contains 1 = false := by
  intro heap replaced past
  have hi : (World.empty catalog heap).Idle := fun k => isBorrowed_empty heap k
  have hg : replaced.Guarded :=
    ⟨⟨trivial, fun _ => trivial⟩, fun _ _ => ⟨⟨trivial, fun _ => trivial⟩, fun _ => trivial⟩⟩
  obtain ⟨o, ho⟩ := exists_run_of_guarded hg hi
  have h : Session heap ([] ++ past) o.world := Session.call .start ho
  rw [List.nil_append] at h
  have own := instances_are_owned_once h nodeType
  have hr : registered (movesOn nodeType past) = [1, 65537] := by decide +kernel
  have hc : received (movesOn nodeType past) = [1] := by decide +kernel
  refine ⟨_, h, own, hr, hc, Bool.eq_false_iff.2 fun hl => ?_⟩
  have hn := ((own.owned.live_iff 1).1 hl).2
  rw [hc] at hn
  exact hn (List.mem_singleton_self 1)

end HandleBridge.Script
