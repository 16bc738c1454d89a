import HandleBridge.Export.Script
import HandleBridge.Proofs.Export.World

/-
  What each kind of call does.

  A call asks for the store of its type, and is turned away if the store is in use. If it is not,
  the call finds a live instance or none, a place or none, and that is all it depends on. So each
  call has one equation for either case. What the method itself does is left open: its outcome is
  `o`, or `w'` is the world that it leaves.

  Proved:
  * `run_create_eq`, `run_take_eq`: the calls in terms of `World.register` and `World.remove`.
  * `run_create_of_registered`, `run_take_of_removed`, `run_withInstance_of_ok` and their likes:
    one equation for each way a call may go.
  * `run_withInstance_live`, `run_create_ok`, `run_take_live` and their likes: the same on a free
    store, in terms of what the store contains.
-/

namespace HandleBridge.Script

open World

variable {M : Catalog} {α β : Type} {j k : Fin M.count} {raw : UInt32} {w w' : World M}
  {v v' : M.Value k} {es : List Event}

/-! ## The instance behind a handle -/

theorem get_of_lookup (hl : (w.store k).contents.lookup raw = some v) :
    (w.store k).get raw = .ok v := by
  rw [Store.get_eq_contents, hl]

theorem get_of_dead (hd : raw ∉ (w.store k).contents) :
    (w.store k).get raw = .error (.invalidHandle raw) := by
  rw [Store.get_eq_contents, Finmap.lookup_eq_none.2 hd]

theorem lookup_of_get (he : (w.store k).get raw = .ok v) :
    ∃ h, (w.store k).lookup raw = some (h, v) := by
  unfold Store.get at he
  split at he
  · rename_i h u hl
    cases he
    exact ⟨h, hl⟩
  · cases he

theorem giveBack_eq (w : World M) (raw : UInt32) (v : M.Value k) :
    giveBack w k raw v = (w.withStore k ((w.store k).set raw v)).setBorrowed k false := by
  unfold giveBack
  rw [onStore_eq]
  rfl

theorem store_giveBack_same (w : World M) (raw : UInt32) (v : M.Value k) :
    (giveBack w k raw v).store k = (w.store k).set raw v := by
  rw [giveBack_eq, store_setBorrowed, store_withStore]

theorem store_giveBack_other (w : World M) (raw : UInt32) (v : M.Value k) (hj : j ≠ k) :
    (giveBack w k raw v).store j = w.store j := by
  rw [giveBack_eq, store_setBorrowed, store_withStore_other w _ hj]

theorem isBorrowed_giveBack_same (w : World M) (raw : UInt32) (v : M.Value k) :
    (giveBack w k raw v).isBorrowed k = false := by
  rw [giveBack_eq, isBorrowed_setBorrowed_same]

theorem isBorrowed_giveBack_other (w : World M) (raw : UInt32) (v : M.Value k) (hj : j ≠ k) :
    (giveBack w k raw v).isBorrowed j = w.isBorrowed j := by
  rw [giveBack_eq, isBorrowed_setBorrowed_other _ hj, isBorrowed_withStore]

theorem giveBack_setBorrowed (w : World M) (raw : UInt32) (v : M.Value k)
    (hb : w.isBorrowed k = false) :
    giveBack (w.setBorrowed k true) k raw v = w.withStore k ((w.store k).set raw v) := by
  rw [giveBack_eq, store_setBorrowed, ← hb, setBorrowed_withStore_setBorrowed]

/-! ## Each way a call may go -/

theorem run_after_of_ok {first : Script M β} {next : β → Script M α} {o₁ : Outcome M β}
    {o₂ : Outcome M α} (h₁ : run first w = .ok o₁)
    (h₂ : run (next o₁.value) o₁.world = .ok o₂) :
    run (after first next) w = .ok { o₂ with events := o₁.events ++ o₂.events } := by
  rw [run, h₁]
  dsimp only
  rw [h₂]

theorem run_create_eq (make : Script M (M.Value k)) (drop : M.Value k → Script M Unit)
    (w : World M) : run (create k make drop) w =
      match run make w with
      | .error a => .error a
      | .ok ⟨v, w', es⟩ =>
        match (w'.register k v).result with
        | .ok h =>
          .ok ⟨h.raw, (w'.register k v).state,
            es ++ (w'.register k v).events ++ [.created (M.name k) h]⟩
        | .error cause =>
          match run (drop v) ((w'.register k v).state.setBorrowed k true) with
          | .error a => .error a
          | .ok o =>
            .ok ⟨invalidHandle, o.world.setBorrowed k (w'.isBorrowed k),
              es ++ (w'.register k v).events ++ o.events ++ [.creationFailed (M.name k) cause]⟩ := by
  rw [run]
  rfl

theorem run_take_eq (how : Departure) (raw : UInt32) (sentinel : α)
    (body : M.Value k → Script M (Layered α)) (w : World M) :
    run (take k how raw sentinel body) w =
      match (w.remove k raw).result with
      | .error cause =>
        .ok ⟨sentinel, (w.remove k raw).state,
          (w.remove k raw).events ++ [.departureIgnored how (M.name k) cause]⟩
      | .ok v =>
        match run (body v) (w.remove k raw).state with
        | .error a => .error a
        | .ok o =>
          .ok ⟨(o.value.cross sentinel).1, o.world,
            (w.remove k raw).events ++ .departed how (M.name k) raw :: o.events ++
              (o.value.cross sentinel).2⟩ := by
  rw [run]
  rfl

theorem run_create_of_registered {make : Script M (M.Value k)} {drop : M.Value k → Script M Unit}
    {o : Outcome M (M.Value k)} {h : Handle} (hm : run make w = .ok o)
    (he : (o.world.register k o.value).result = .ok h) :
    run (create k make drop) w = .ok ⟨h.raw, (o.world.register k o.value).state,
      o.events ++ (o.world.register k o.value).events ++ [.created (M.name k) h]⟩ := by
  rw [run_create_eq, hm]
  dsimp only
  rw [he]

/-- An instance without effects at its end that finds no place is just not registered. -/
theorem run_create_of_refused {make : Script M (M.Value k)} {o : Outcome M (M.Value k)}
    {cause : Fault} (hm : run make w = .ok o)
    (he : (o.world.register k o.value).result = .error cause) :
    run (create k make silentDrop) w = .ok ⟨invalidHandle, (o.world.register k o.value).state,
      o.events ++ (o.world.register k o.value).events ++ [.creationFailed (M.name k) cause]⟩ := by
  rw [run_create_eq, hm]
  dsimp only
  rw [he]
  dsimp only [silentDrop, run]
  rw [← isBorrowed_register o.world o.value k, setBorrowed_setBorrowed, List.append_nil]

theorem run_take_of_removed {how : Departure} {sentinel : α}
    {body : M.Value k → Script M (Layered α)} {v : M.Value k} {o : Outcome M (Layered α)}
    (he : (w.remove k raw).result = .ok v) (hr : run (body v) (w.remove k raw).state = .ok o) :
    run (take k how raw sentinel body) w = .ok ⟨(o.value.cross sentinel).1, o.world,
      (w.remove k raw).events ++ .departed how (M.name k) raw :: o.events ++
        (o.value.cross sentinel).2⟩ := by
  rw [run_take_eq, he]
  dsimp only
  rw [hr]

theorem run_take_of_refused {how : Departure} {sentinel : α}
    {body : M.Value k → Script M (Layered α)} {cause : Fault}
    (he : (w.remove k raw).result = .error cause) :
    run (take k how raw sentinel body) w = .ok ⟨sentinel, (w.remove k raw).state,
      (w.remove k raw).events ++ [.departureIgnored how (M.name k) cause]⟩ := by
  rw [run_take_eq, he]

theorem run_withInstance_of_borrowed {sentinel : α}
    {body : M.Value k → Script M (M.Value k × Layered α)} (hb : w.isBorrowed k = true) :
    run (withInstance k raw sentinel body) w =
      .ok ⟨sentinel, w, [.callRejected (M.name k) .reentrant]⟩ := by
  rw [run, if_pos hb]

theorem run_withInstance_of_error {sentinel : α}
    {body : M.Value k → Script M (M.Value k × Layered α)} {cause : Fault}
    (hb : w.isBorrowed k = false) (hg : (w.store k).get raw = .error cause) :
    run (withInstance k raw sentinel body) w =
      .ok ⟨sentinel, w, [.callRejected (M.name k) cause]⟩ := by
  rw [run, if_neg (Bool.eq_false_iff.1 hb), hg]

theorem run_withInstance_of_ok {sentinel : α}
    {body : M.Value k → Script M (M.Value k × Layered α)} {v : M.Value k}
    {o : Outcome M (M.Value k × Layered α)} (hb : w.isBorrowed k = false)
    (hg : (w.store k).get raw = .ok v) (hr : run (body v) (w.setBorrowed k true) = .ok o) :
    run (withInstance k raw sentinel body) w =
      .ok ⟨(o.value.2.cross sentinel).1, giveBack o.world k raw o.value.1,
        o.events ++ (o.value.2.cross sentinel).2⟩ := by
  rw [run, if_neg (Bool.eq_false_iff.1 hb), hg]
  dsimp only
  rw [hr]

/-! ## On a free store -/

theorem run_withInstance_dead {sentinel : α}
    {body : M.Value k → Script M (M.Value k × Layered α)} (hb : w.isBorrowed k = false)
    (hd : raw ∉ (w.store k).contents) :
    run (withInstance k raw sentinel body) w =
      .ok ⟨sentinel, w, [.callRejected (M.name k) (.invalidHandle raw)]⟩ :=
  run_withInstance_of_error hb (get_of_dead hd)

theorem run_withInstance_live {sentinel : α} {o : Outcome M (M.Value k × Layered α)}
    {body : M.Value k → Script M (M.Value k × Layered α)} (hb : w.isBorrowed k = false)
    (hl : (w.store k).contents.lookup raw = some v)
    (hr : run (body v) (w.setBorrowed k true) = .ok o) :
    run (withInstance k raw sentinel body) w =
      .ok ⟨(o.value.2.cross sentinel).1, giveBack o.world k raw o.value.1,
        o.events ++ (o.value.2.cross sentinel).2⟩ :=
  run_withInstance_of_ok hb (get_of_lookup hl) hr

/-- A method that only looks at its instance leaves no trace. -/
theorem run_withInstance_query {sentinel : α} (f : M.Value k → α) (hb : w.isBorrowed k = false)
    (hl : (w.store k).contents.lookup raw = some v) :
    run (withInstance k raw sentinel fun v => pure (v, .bare (f v))) w = .ok ⟨f v, w, []⟩ := by
  have hr : run (pure (v, .bare (f v)) : Script M (M.Value k × Layered α)) (w.setBorrowed k true) =
      .ok ⟨(v, .bare (f v)), w.setBorrowed k true, []⟩ := rfl
  rw [run_withInstance_live hb hl hr, giveBack_setBorrowed w raw v hb,
    Store.set_contents_self hl, withStore_store]
  rfl

theorem run_create_ok {make : Script M (M.Value k)} {drop : M.Value k → Script M Unit} {h : Handle}
    (hm : run make w = .ok ⟨v, w', es⟩) (hb : w'.isBorrowed k = false)
    (hi : ((w'.store k).insert w'.heap.allocator v).result = .ok h) :
    ∃ es', run (create k make drop) w =
      .ok ⟨h.raw, w'.ticked.withStore k
        ((w'.store k).insert w'.heap.allocator v).state, es'⟩ := by
  have hr := register_of_free (v := v) hb
  rw [insert_eq] at hr
  rw [run_create_of_registered hm (by rw [hr]; exact hi), hr]
  exact ⟨_, rfl⟩

/-- An instance without effects at its end that finds no place leaves nothing but a request for
memory behind. -/
theorem run_create_error {make : Script M (M.Value k)} {cause : Fault}
    (hm : run make w = .ok ⟨v, w', es⟩) (hb : w'.isBorrowed k = false)
    (hi : (w'.store k).insert w'.heap.allocator v = .failed cause (w'.store k) []) :
    ∃ es', run (create k make silentDrop) w =
      .ok ⟨invalidHandle, w'.ticked, es'⟩ := by
  have hr := register_of_free (v := v) hb
  rw [insert_eq, hi] at hr
  rw [run_create_of_refused hm (congrArg Step.result hr), hr]
  dsimp only [Step.failed]
  rw [← store_ticked w' k, withStore_store]
  exact ⟨_, rfl⟩

theorem run_take_dead {how : Departure} {sentinel : α} {body : M.Value k → Script M (Layered α)}
    (hb : w.isBorrowed k = false) (hd : raw ∉ (w.store k).contents) :
    run (take k how raw sentinel body) w =
      .ok ⟨sentinel, w, [.departureIgnored how (M.name k) (.invalidHandle raw)]⟩ := by
  have hr : w.remove k raw = _ := remove_of_free hb
  rw [Store.remove_error (Store.lookup_eq_none_iff.2 hd)] at hr
  rw [run_take_of_refused (congrArg Step.result hr), hr]
  dsimp only [Step.failed]
  rw [withStore_store, List.nil_append]

theorem run_take_live {how : Departure} {sentinel : α} {result : Layered α}
    {body : M.Value k → Script M (Layered α)} (hb : w.isBorrowed k = false)
    (hl : (w.store k).contents.lookup raw = some v)
    (hr : run (body v) (w.withStore k ((w.store k).remove raw).state) = .ok ⟨result, w', es⟩) :
    ∃ es', run (take k how raw sentinel body) w =
      .ok ⟨(result.cross sentinel).1, w', es'⟩ := by
  obtain ⟨h, e⟩ := Store.lookup_contents_eq_some_iff.1 hl
  have hs : w.remove k raw = _ := remove_of_free hb
  rw [(Store.remove_ok e).1] at hs
  exact ⟨_, run_take_of_removed (congrArg Step.result hs) (by rw [hs]; exact hr)⟩

end HandleBridge.Script
