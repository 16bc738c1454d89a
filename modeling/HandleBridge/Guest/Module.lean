import HandleBridge.Region
import HandleBridge.Event
import HandleBridge.Config

/-
  Guests: programs with a linear memory of their own, which the host runs.

  To the host a guest is a machine, a memory beside some hidden state, and functions on it. A
  call may change the machine in any way, ask for lines in the host's log, and trap. A module
  exports its memory and its functions under names; the host looks up the five functions of the
  protocol by name and signature.
-/

namespace HandleBridge.Guest

/-- Bytes in a page of linear memory. -/
def pageBytes : Nat := 65536

/-- Why a call did not return. -/
inductive Trap where
  | unreachable
  | outOfFuel
  | unknownImport
  /-- An access outside the linear memory. -/
  | memoryAccess
deriving DecidableEq

/-- A guest between two calls. -/
structure Machine (σ : Type) where
  memory : ByteArray
  state : σ

/-- A request for a line in the host's log: where the text lies, and the memory at that time. -/
structure LogRequest where
  level : UInt32
  ptr : UInt32
  len : UInt32
  memory : ByteArray

/-- What the host makes of a request for a log line. -/
def LogRequest.event (r : LogRequest) : Event :=
  match readRegion r.memory r.ptr.toUInt64 r.len.toUInt64 with
  | .ok bytes => .guestLine (Level.ofRank r.level.toNat) (Text.Utf8.decodeLossy bytes)
  | .error cause => .guestLineDropped cause

/-- How a call ended, the machine that it left, and the log lines it asked for. -/
structure Reply (σ α : Type) where
  result : Except Trap α
  machine : Machine σ
  logs : List LogRequest := []

/-- The code of a function. -/
abbrev Code (σ α : Type) := Machine σ → Reply σ α

/-- A function of a module, by its signature. -/
inductive Function (σ : Type) where
  /-- No argument, one word as result. -/
  | source (code : Code σ UInt32)
  /-- One word to one word. -/
  | unary (code : UInt32 → Code σ UInt32)
  /-- Two words to one word. -/
  | binary (code : UInt32 → UInt32 → Code σ UInt32)
  /-- One word, no result. -/
  | command (code : UInt32 → Code σ Unit)
  /-- Any other signature. -/
  | other

/-- Something that a module exports. -/
inductive Export (σ : Type) where
  | memory
  | function (f : Function σ)

/-- Why a module did not come to life: a trap of its start function, or else its memory. -/
abbrev StartFailure := Option Trap

/-- How starting a module went; log lines count also if it failed. -/
structure Start (σ : Type) where
  result : Except StartFailure (Machine σ)
  logs : List LogRequest := []

/-- A module that the host may start under a limit on its memory and, if wanted, on its fuel. -/
structure Module (σ : Type) where
  exports : List (String × Export σ)
  start : (maxMemoryBytes : Nat) → (fuel : Option Nat) → Start σ
  /-- What is left of the fuel, if fuel is limited. -/
  fuelLeft : σ → Option Nat

namespace Module

variable {σ : Type}

/-- The export of a name. -/
def export? (m : Module σ) (name : String) : Option (Export σ) := m.exports.lookup name

/-- Whether a name belongs to a memory. -/
def hasMemory (m : Module σ) (name : String) : Bool :=
  match m.export? name with
  | some .memory => true
  | _ => false

def source? (m : Module σ) (name : String) : Option (Code σ UInt32) :=
  match m.export? name with
  | some (.function (.source code)) => some code
  | _ => none

def unary? (m : Module σ) (name : String) : Option (UInt32 → Code σ UInt32) :=
  match m.export? name with
  | some (.function (.unary code)) => some code
  | _ => none

def binary? (m : Module σ) (name : String) : Option (UInt32 → UInt32 → Code σ UInt32) :=
  match m.export? name with
  | some (.function (.binary code)) => some code
  | _ => none

def command? (m : Module σ) (name : String) : Option (UInt32 → Code σ Unit) :=
  match m.export? name with
  | some (.function (.command code)) => some code
  | _ => none

end Module

/-! Modules given as bytes. The only ones known here are the two forms of the empty module; it has
no memory and no functions, so no host can use it. -/

/-- The empty module in its binary form: a magic number and a version. -/
def emptyBinary : ByteArray := ⟨#[0x00, 0x61, 0x73, 0x6d, 0x01, 0x00, 0x00, 0x00]⟩

/-- The empty module as text. -/
def emptyText : ByteArray := "(module)".toUTF8

/-- A module without anything. -/
def emptyModule : Module Unit := ⟨[], fun _ _ => ⟨.ok ⟨ByteArray.empty, ()⟩, []⟩, fun _ => none⟩

/-- The module that the bytes stand for. -/
def ofBytes? (bytes : ByteArray) : Option (Module Unit) :=
  if bytes.data = emptyBinary.data ∨ bytes.data = emptyText.data then some emptyModule else none

end HandleBridge.Guest

namespace HandleBridge

/-- The five functions of the protocol, as the host found them. -/
structure Guest (σ : Type) where
  create : Guest.Code σ UInt32
  ptr : UInt32 → Guest.Code σ UInt32
  len : UInt32 → Guest.Code σ UInt32
  reserve : UInt32 → UInt32 → Guest.Code σ UInt32
  destroy : UInt32 → Guest.Code σ Unit

end HandleBridge
