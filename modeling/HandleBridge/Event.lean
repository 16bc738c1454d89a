import HandleBridge.Handle
import HandleBridge.Fault
import HandleBridge.Text.Quoted

/-
  What is worth a line in the log. Operations return their events as data; a line is written
  only when the events are shown, at the importance that the reader asks for.
-/

namespace HandleBridge

/-- How important an event is. -/
inductive Level where
  | error
  | warn
  | info
  | debug
  | trace
deriving DecidableEq

namespace Level

/-- One for the most important events, five for the least. -/
def rank : Level → Nat
  | error => 1
  | warn => 2
  | info => 3
  | debug => 4
  | trace => 5

/-- The level of a number, where too small counts as `error` and too large as `trace`. -/
def ofRank (n : Nat) : Level :=
  match n with
  | 0 | 1 => error
  | 2 => warn
  | 3 => info
  | 4 => debug
  | _ => trace

theorem ofRank_rank (l : Level) : ofRank l.rank = l := by cases l <;> rfl

/-- The number of a level is a word. -/
theorem toNat_rank (l : Level) : (UInt32.ofNat l.rank).toNat = l.rank := by cases l <;> rfl

end Level

/-- The two ways an instance leaves its store for good. -/
inductive Departure where
  /-- The type's own `destroy`. -/
  | destroy
  /-- Any other method that takes the instance by value. -/
  | consume
deriving DecidableEq

/-- The word for a departure. -/
def Departure.word : Departure → String
  | destroy => "destroy"
  | consume => "consume"

/-- Something that happened. -/
inductive Event where
  | slotReused (handle : Handle)
  | slotAllocated (handle : Handle)
  | slotRetired (handle : Handle)
  | created (type : String) (handle : Handle)
  | creationFailed (type : String) (cause : Fault)
  | callRejected (type : String) (cause : Fault)
  | departed (how : Departure) (type : String) (raw : UInt32)
  | departureIgnored (how : Departure) (type : String) (cause : Fault)
  /-- A failed result was replaced by the sentinel of its type. -/
  | sentinelReturned (cause : String)
  | reservingString (len : Nat)
  /-- A record goes; `content` is the report of its buffer. -/
  | droppingRecord (content : String)
  | moduleLoaded (memorySize : Nat)
  | remoteDestroying (raw : UInt32)
  | remoteCreated (raw : UInt32)
  | remoteRead (len : Nat) (raw : UInt32) (offset : Nat)
  | remoteWritten (len : Nat) (raw : UInt32) (offset : Nat)
  | guestLineDropped (cause : Fault)
  | guestLine (level : Level) (text : String)
deriving DecidableEq

namespace Event

def level : Event → Level
  | slotReused _ | slotAllocated _ | slotRetired _ => .debug
  | created _ _ | callRejected _ _ | departed _ _ _ | departureIgnored _ _ _ => .debug
  | creationFailed _ _ | sentinelReturned _ | guestLineDropped _ => .warn
  | reservingString _ => .debug
  | droppingRecord _ => .trace
  | moduleLoaded _ => .info
  | remoteDestroying _ | remoteCreated _ | remoteRead _ _ _ | remoteWritten _ _ _ => .debug
  | guestLine level _ => level

/-- The part of the program that an event belongs to. -/
def target : Event → String
  | slotReused _ | slotAllocated _ | slotRetired _ => "theus_support::store"
  | created _ _ | creationFailed _ _ | callRejected _ _ | departed _ _ _
  | departureIgnored _ _ _ => "theus_core::export"
  | sentinelReturned _ => "theus_core::boundary"
  | reservingString _ | droppingRecord _ => "theus_record"
  | moduleLoaded _ | remoteDestroying _ | remoteCreated _ | remoteRead _ _ _
  | remoteWritten _ _ _ | guestLineDropped _ => "theus_runtime::runtime"
  | guestLine _ _ => "theus_guest"

def message : Event → String
  | slotReused h => s!"reused slot {h.slot} for {h.report}"
  | slotAllocated h => s!"allocated slot {h.slot} for {h.report}"
  | slotRetired h => s!"retired slot {h.slot} after {h.report}"
  | created type h => s!"created {type} {h.report}"
  | creationFailed type cause => s!"create {type} failed: {cause.message}"
  | callRejected type cause => s!"{type} call rejected: {cause.message}"
  | departed how type raw => s!"{how.word} {type} {raw.toNat}"
  | departureIgnored how type cause => s!"ignoring {how.word} of {type}: {cause.message}"
  | sentinelReturned cause => s!"returning sentinel across the boundary: {cause}"
  | reservingString len => s!"reserving {len} bytes for record string"
  | droppingRecord content => s!"dropping record {content}"
  | moduleLoaded size => s!"loaded module with {size} bytes of linear memory"
  | remoteDestroying raw => s!"destroying handle {raw.toNat}"
  | remoteCreated raw => s!"created handle {raw.toNat}"
  | remoteRead len raw offset =>
    s!"read {len} bytes from handle {raw.toNat} at 0x{Text.hex offset}"
  | remoteWritten len raw offset =>
    s!"wrote {len} bytes to handle {raw.toNat} at 0x{Text.hex offset}"
  | guestLineDropped cause => s!"dropping guest log line: {cause.message}"
  | guestLine _ text => text

/-- The line that the event makes in a log. -/
def line (e : Event) : String := e.target ++ ": " ++ e.message

/-- The events that a reader sees who asks for everything up to rank `ceiling`. -/
def visible (ceiling : Nat) (es : List Event) : List Event :=
  es.filter fun e => e.level.rank ≤ ceiling

theorem visible_append (ceiling : Nat) (es fs : List Event) :
    visible ceiling (es ++ fs) = visible ceiling es ++ visible ceiling fs := by
  simp [visible]

theorem visible_zero (es : List Event) : visible 0 es = [] := by
  simp only [visible, List.filter_eq_nil_iff]
  intro e _
  cases h : e.level <;> simp [Level.rank]

end Event

/-- What an operation on a state `σ` answers, leaves behind, and has to tell. -/
structure Step (ε σ α : Type) where
  result : Except ε α
  state : σ
  events : List Event := []

namespace Step

/-- The operation succeeded. -/
def ok {ε σ α : Type} (value : α) (state : σ) (events : List Event) : Step ε σ α :=
  ⟨.ok value, state, events⟩

/-- The operation failed. -/
def failed {ε σ α : Type} (cause : ε) (state : σ) (events : List Event) : Step ε σ α :=
  ⟨.error cause, state, events⟩

/-- What it answers and leaves behind, and apart from that what it has to tell. -/
def reply {ε σ α : Type} (step : Step ε σ α) : (Except ε α × σ) × List Event :=
  ((step.result, step.state), step.events)

end Step

end HandleBridge
