import HandleBridge.Export.World
import HandleBridge.Scalar

/-
  What the functions that a module exports do, as finite trees of calls.

  An exported function creates an instance, runs a method on one, or takes one out of its store
  and hands it to a method for good. The code of a method is itself a script, so it may call
  further exports. `run` plays a script against the stores.

  A method that borrows its instance runs while the store of its type is in use; a call on that
  type then answers the sentinel of its result. `create` makes its instance before it asks for
  the store, and a method that takes its instance runs after the store is released. Only the
  two administrative calls insist on a free store: they abort.
-/

namespace HandleBridge

/-- A tree of calls that ends in an `α`. -/
inductive Script (M : Catalog) : Type → Type 1 where
  | done {α : Type} (value : α) : Script M α
  | after {α β : Type} (first : Script M α) (next : α → Script M β) : Script M β
  /-- Makes an instance and registers it. An instance that finds no place is dropped. -/
  | create (k : Fin M.count) (make : Script M (M.Value k)) (drop : M.Value k → Script M Unit) :
      Script M UInt32
  /-- Runs a method on a live instance, which the method may change. -/
  | withInstance {α : Type} (k : Fin M.count) (raw : UInt32) (sentinel : α)
      (body : M.Value k → Script M (M.Value k × Layered α)) : Script M α
  /-- Takes a live instance out of its store and gives it to a method. -/
  | take {α : Type} (k : Fin M.count) (how : Departure) (raw : UInt32) (sentinel : α)
      (body : M.Value k → Script M (Layered α)) : Script M α
  /-- How the next request for memory is answered. -/
  | allocator : Script M Allocator
  | note (event : Event) : Script M Unit
  | liveInstances (k : Fin M.count) : Script M Nat
  | configure (k : Fin M.count) (limit : StoreLimit) : Script M Unit

/-- An administrative call found the store of a type in use. -/
structure Abort (M : Catalog) where
  type : Fin M.count

/-- How a script that was not aborted ended. -/
structure Outcome (M : Catalog) (α : Type) where
  value : α
  world : World M
  events : List Event

namespace Script

variable {M : Catalog}

instance : Monad (Script M) where
  pure := done
  bind := after

/-- A function that needs no instance: its result crosses, and nothing else happens. -/
def direct {α : Type} (sentinel : α) (result : Layered α) : Script M α :=
  (result.cross sentinel).2.foldr (fun e rest => .after (.note e) fun _ => rest)
    (.done (result.cross sentinel).1)

/-- An instance whose end has no effect. -/
def silentDrop {α : Type} (_ : α) : Script M Unit := .done ()

/-- Puts a changed instance back under its handle and frees the store. -/
def giveBack (w : World M) (k : Fin M.count) (raw : UInt32) (v : M.Value k) : World M :=
  ((w.onStore k fun s => (.ok () (s.set raw v) [] : Step Fault _ Unit)).state).setBorrowed k false

/-- Plays a script. -/
def run : {α : Type} → Script M α → World M → Except (Abort M) (Outcome M α)
  | _, done value, w => .ok ⟨value, w, []⟩
  | _, after first next, w =>
    match run first w with
    | .error a => .error a
    | .ok o =>
      match run (next o.value) o.world with
      | .error a => .error a
      | .ok o' => .ok { o' with events := o.events ++ o'.events }
  | _, create k make drop, w =>
    match run make w with
    | .error a => .error a
    | .ok ⟨v, w, es⟩ =>
      let busy := w.isBorrowed k
      let step : Step Fault (World M) Handle :=
        if busy then .failed .reentrant w [] else w.insert k v
      match step.result with
      | .ok h => .ok ⟨h.raw, step.state, es ++ step.events ++ [.created (M.name k) h]⟩
      | .error cause =>
        match run (drop v) (step.state.setBorrowed k true) with
        | .error a => .error a
        | .ok o =>
          .ok ⟨invalidHandle, o.world.setBorrowed k busy,
            es ++ step.events ++ o.events ++ [.creationFailed (M.name k) cause]⟩
  | _, withInstance k raw sentinel body, w =>
    if w.isBorrowed k then .ok ⟨sentinel, w, [.callRejected (M.name k) .reentrant]⟩
    else
      match (w.store k).get raw with
      | .error cause => .ok ⟨sentinel, w, [.callRejected (M.name k) cause]⟩
      | .ok v =>
        match run (body v) (w.setBorrowed k true) with
        | .error a => .error a
        | .ok ⟨(v, result), w, es⟩ =>
          let (value, more) := result.cross sentinel
          .ok ⟨value, giveBack w k raw v, es ++ more⟩
  | _, take k how raw sentinel body, w =>
    let step : Step Fault (World M) (M.Value k) :=
      if w.isBorrowed k then .failed .reentrant w [] else w.onStore k (·.remove raw)
    match step.result with
    | .error cause =>
      .ok ⟨sentinel, step.state, step.events ++ [.departureIgnored how (M.name k) cause]⟩
    | .ok v =>
      match run (body v) step.state with
      | .error a => .error a
      | .ok o =>
        let (value, more) := o.value.cross sentinel
        .ok ⟨value, o.world,
          step.events ++ .departed how (M.name k) raw :: o.events ++ more⟩
  | _, allocator, w => .ok ⟨w.heap.allocator, { w with heap := w.heap.tick }, []⟩
  | _, note event, w => .ok ⟨(), w, [event]⟩
  | _, liveInstances k, w => if w.isBorrowed k then .error ⟨k⟩ else .ok ⟨w.live k, w, []⟩
  | _, configure k limit, w =>
    if w.isBorrowed k then .error ⟨k⟩ else .ok ⟨(), w.configure k limit, []⟩

end Script

end HandleBridge
