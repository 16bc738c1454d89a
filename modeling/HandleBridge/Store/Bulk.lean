import HandleBridge.Store

/-
  Many operations on a store in a row, up to the first one that fails: filling it, and churning
  (insert, then remove what was inserted).
-/

namespace HandleBridge.Store

variable {α : Type}

/-- How far a row of operations got. -/
structure Progress where
  done : Nat := 0
  first : Option Handle := none
  last : Option Handle := none
  failure : Option Fault := none

namespace Progress

/-- One more operation succeeded, with this handle. -/
def advance (p : Progress) (h : Handle) : Progress :=
  { p with done := p.done + 1, first := p.first.or (some h), last := some h }

/-- The next operation failed. -/
def stop (p : Progress) (cause : Fault) : Progress := { p with failure := some cause }

end Progress

/-- Inserts up to `n` instances, the next one being `make p.done`. Events up to rank `ceiling`
are kept. -/
def fill (heap : Allocator) (ceiling : Nat) (make : Nat → α) :
    Nat → Progress → Store α → List Event → Progress × Store α × List Event
  | 0, p, s, log => (p, s, log)
  | n + 1, p, s, log =>
    let step := s.insert heap (make p.done)
    let log := (Event.visible ceiling step.events).foldl (fun l e => e :: l) log
    match step.result with
    | .ok h => fill heap ceiling make n (p.advance h) step.state log
    | .error cause => (p.stop cause, step.state, log)

/-- Inserts and removes up to `n` times, the instance being `make p.done`. -/
def churn (heap : Allocator) (ceiling : Nat) (make : Nat → α) :
    Nat → Progress → Store α → List Event → Progress × Store α × List Event
  | 0, p, s, log => (p, s, log)
  | n + 1, p, s, log =>
    let step := s.insert heap (make p.done)
    let log := (Event.visible ceiling step.events).foldl (fun l e => e :: l) log
    match step.result with
    | .ok h =>
      let gone := step.state.remove h.raw
      let log := (Event.visible ceiling gone.events).foldl (fun l e => e :: l) log
      match gone.result with
      | .ok _ => churn heap ceiling make n (p.advance h) gone.state log
      | .error cause => (p.stop cause, gone.state, log)
    | .error cause => (p.stop cause, step.state, log)

end HandleBridge.Store
