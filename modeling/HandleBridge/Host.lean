import HandleBridge.Guest.Module

/-
  The host's side of the protocol: it drives a guest through its five functions and copies bytes
  from and into the guest's memory, after checking every region that the guest names.

  A guest can answer only with words. Zero means failure, and the host finds out which: `read`
  takes address zero as "no such instance"; `write`, told that there is no room, asks for the
  address of the old content, which only a live instance has.
-/

namespace HandleBridge

/-- Why an operation on a guest failed. -/
inductive HostFault where
  | boundary (cause : Fault)
  /-- A call of the named export trapped. -/
  | executing (name : String) (trap : Guest.Trap)
  /-- The named export created nothing. -/
  | nothingCreated (name : String)
  /-- The content of an instance is no text. -/
  | notText
deriving DecidableEq

namespace HostFault

def message : HostFault → String
  | boundary cause => cause.message
  | executing name _ => s!"Error executing {name}"
  | nothingCreated name => s!"{name} failed: module out of memory or out of handles"
  | notText => "instance content is not valid UTF-8"

/-- The trap behind a failure, if it was one. -/
def trap? : HostFault → Option Guest.Trap
  | executing _ trap => some trap
  | _ => none

end HostFault

/-- A guest that has been loaded. -/
structure Host (σ : Type) where
  guest : Guest σ
  exports : ExportNames
  machine : Guest.Machine σ
  /-- Log lines that the guest asked for so far, those included that could not be read. -/
  guestLogLines : Nat := 0

namespace Host

variable {σ α β : Type}

/-- One call into the guest, through the export of that name. -/
def call (name : String) (code : Guest.Code σ α) (h : Host σ) : Step HostFault (Host σ) α :=
  let r := code h.machine
  ⟨r.result.mapError (.executing name),
    { h with machine := r.machine, guestLogLines := h.guestLogLines + r.logs.length },
    r.logs.map Guest.LogRequest.event⟩

/-- Goes on with the next operation if the first one succeeded. -/
def andThen (first : Step HostFault (Host σ) α) (next : α → Host σ → Step HostFault (Host σ) β) :
    Step HostFault (Host σ) β :=
  match first.result with
  | .ok a =>
    let step := next a first.state
    { step with events := first.events ++ step.events }
  | .error cause => ⟨.error cause, first.state, first.events⟩

def memorySize (h : Host σ) : Nat := h.machine.memory.size

/-- A handle of a new instance, or zero. -/
def create (h : Host σ) : Step HostFault (Host σ) UInt32 := h.call h.exports.create h.guest.create

/-- Where the content of an instance lies, or zero. -/
def ptr (handle : UInt32) (h : Host σ) : Step HostFault (Host σ) UInt32 :=
  h.call h.exports.ptr (h.guest.ptr handle)

/-- How many bytes the content of an instance has. -/
def len (handle : UInt32) (h : Host σ) : Step HostFault (Host σ) UInt32 :=
  h.call h.exports.len (h.guest.len handle)

/-- Where `n` bytes may be written for an instance, or zero. -/
def reserve (handle n : UInt32) (h : Host σ) : Step HostFault (Host σ) UInt32 :=
  h.call h.exports.reserve (h.guest.reserve handle n)

/-- Ends an instance. -/
def destroy (handle : UInt32) (h : Host σ) : Step HostFault (Host σ) Unit :=
  let step := h.call h.exports.destroy (h.guest.destroy handle)
  { step with events := .remoteDestroying handle :: step.events }

/-- A new instance. -/
def instantiate (h : Host σ) : Step HostFault (Host σ) UInt32 :=
  andThen h.create fun handle h =>
    if handle = invalidHandle then .failed (.nothingCreated h.exports.create) h []
    else .ok handle h [.remoteCreated handle]

/-- The content of an instance. -/
def read (handle : UInt32) (h : Host σ) : Step HostFault (Host σ) ByteArray :=
  andThen (h.len handle) fun len h =>
    andThen (h.ptr handle) fun offset h =>
      if offset = 0 then .failed (.boundary (.invalidHandle handle)) h []
      else
        match readRegion h.machine.memory offset.toUInt64 len.toUInt64 with
        | .ok bytes => .ok bytes h [.remoteRead len.toNat handle offset.toNat]
        | .error cause => .failed (.boundary cause) h []

/-- The content of an instance as text. -/
def readString (handle : UInt32) (h : Host σ) : Step HostFault (Host σ) String :=
  andThen (h.read handle) fun bytes h =>
    match Text.Utf8.decode? bytes with
    | some text => .ok text h []
    | none => .failed .notText h []

/-- The fault of a write for which there was no room. -/
def refusal (handle : UInt32) (requested : Nat) (oldOffset : UInt32) : Fault :=
  if oldOffset = 0 then .invalidHandle handle else .outOfMemory requested

/-- Replaces the content of an instance. -/
def write (handle : UInt32) (bytes : ByteArray) (h : Host σ) : Step HostFault (Host σ) Unit :=
  if UInt32.size ≤ bytes.size then .failed (.boundary (.outOfMemory bytes.size)) h []
  else
    andThen (h.reserve handle (UInt32.ofNat bytes.size)) fun offset h =>
      if offset = 0 then
        andThen (h.ptr handle) fun old h =>
          .failed (.boundary (refusal handle bytes.size old)) h []
      else
        match writeRegion h.machine.memory offset.toUInt64 bytes with
        | .ok memory =>
          .ok () { h with machine := { h.machine with memory } }
            [.remoteWritten bytes.size handle offset.toNat]
        | .error cause => .failed (.boundary cause) h []

/-- Replaces the content of an instance by a text. -/
def writeString (handle : UInt32) (text : String) (h : Host σ) : Step HostFault (Host σ) Unit :=
  h.write handle text.toUTF8

end Host

end HandleBridge
