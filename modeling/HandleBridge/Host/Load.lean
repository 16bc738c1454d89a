import HandleBridge.Host

/-
  Loading a module: start it, find its memory and its five functions, and tell it how much the
  host wants to hear. The first thing that fails decides.
-/

namespace HandleBridge

/-- Why a module could not be loaded. -/
inductive LoadFault where
  /-- There is no such file. -/
  | unreadable (file : String)
  /-- The bytes are no module. -/
  | notAModule
  | notStarted (cause : Guest.StartFailure)
  | noMemory (name : String)
  /-- No function of that name with the right signature. -/
  | unresolved (name : String)
  /-- The function that takes the log level trapped. -/
  | initLogTrapped (trap : Guest.Trap)
deriving DecidableEq

namespace LoadFault

/-- The export that is told the log level. -/
def initLogName : String := "theus_init_log"

def message : LoadFault → String
  | unreadable file => s!"Failed to read module {file}"
  | notAModule => "Failed to compile WASM module"
  | notStarted _ => "Failed to instantiate WASM module"
  | noMemory name => s!"module does not export memory '{name}'"
  | unresolved name => s!"Failed to resolve export {name}"
  | initLogTrapped _ => s!"Error executing {initLogName}"

/-- The trap behind a failure, if it was one. -/
def trap? : LoadFault → Option Guest.Trap
  | notStarted cause => cause
  | initLogTrapped trap => some trap
  | _ => none

end LoadFault

namespace Guest.Module

variable {σ : Type}

/-- A function, or the fault that names what is missing. -/
def required {α : Type} (name : String) : Option α → Except LoadFault α
  | some a => .ok a
  | none => .error (.unresolved name)

/-- The five functions under their names, looked up in this order. -/
def resolve (m : Module σ) (names : ExportNames) : Except LoadFault (Guest σ) := do
  let create ← required names.create (m.source? names.create)
  let ptr ← required names.ptr (m.unary? names.ptr)
  let len ← required names.len (m.unary? names.len)
  let reserve ← required names.reserve (m.binary? names.reserve)
  let destroy ← required names.destroy (m.command? names.destroy)
  pure ⟨create, ptr, len, reserve, destroy⟩

end Guest.Module

namespace Host

variable {σ : Type}

/-- Tells the guest the host's log level, if it has a function for that. -/
def initLog (m : Guest.Module σ) (level : UInt32) (h : Host σ) : Step LoadFault (Host σ) Unit :=
  match m.command? LoadFault.initLogName with
  | none => .ok () h []
  | some code =>
    let r := code level h.machine
    ⟨r.result.mapError .initLogTrapped,
      { h with machine := r.machine, guestLogLines := h.guestLogLines + r.logs.length },
      r.logs.map Guest.LogRequest.event⟩

/-- How loading went, and what there is to tell about it. -/
structure Loading (σ : Type) where
  result : Except LoadFault (Host σ)
  events : List Event := []

/-- Loads a module at a log level. Lines that the start function asks for are read from the
memory that the configuration names, if the module exports it. -/
def load (m : Guest.Module σ) (c : Config) (level : UInt32) : Loading σ :=
  let start := m.start c.maxMemoryBytes c.fuel
  let heard := if m.hasMemory c.exports.memory then start.logs else []
  let events := heard.map Guest.LogRequest.event
  match start.result with
  | .error cause => ⟨.error (.notStarted cause), events⟩
  | .ok machine =>
    if !m.hasMemory c.exports.memory then ⟨.error (.noMemory c.exports.memory), events⟩
    else
      match m.resolve c.exports with
      | .error cause => ⟨.error cause, events⟩
      | .ok guest =>
        let step := initLog m level ⟨guest, c.exports, machine, heard.length⟩
        match step.result with
        | .error cause => ⟨.error cause, events ++ step.events⟩
        | .ok () =>
          ⟨.ok step.state, events ++ step.events ++ [.moduleLoaded step.state.memorySize]⟩

/-- Loads what may be no module at all. -/
def load? (m : Option (Guest.Module σ)) (c : Config) (level : UInt32) : Loading σ :=
  match m with
  | none => ⟨.error .notAModule, []⟩
  | some m => load m c level

end Host

end HandleBridge
