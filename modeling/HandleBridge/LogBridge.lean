import HandleBridge.Event

/-
  The guest's half of the log bridge. The host sets a filter; a record that passes it is sent to
  the host as one call, with the number of its level and the bytes of its line.

  Proved: a record passes the filter that a number asks for exactly when the rank of its level
  is at most that number (`passes_ofWord`).
-/

namespace HandleBridge

/-- The least important level that is let through, or none at all. -/
inductive LogFilter where
  | off
  | upTo (level : Level)
deriving DecidableEq

namespace LogFilter

/-- The filter that a number asks for; past the last level everything passes. -/
def ofWord (n : UInt32) : LogFilter :=
  match n.toNat with
  | 0 => off
  | r => upTo (Level.ofRank r)

/-- The name of the filter. -/
def name : LogFilter → String
  | off => "OFF"
  | upTo .error => "ERROR"
  | upTo .warn => "WARN"
  | upTo .info => "INFO"
  | upTo .debug => "DEBUG"
  | upTo .trace => "TRACE"

def passes (level : Level) : LogFilter → Bool
  | off => false
  | upTo least => level.rank ≤ least.rank

theorem passes_ofWord (level : Level) (n : UInt32) :
    (ofWord n).passes level = decide (level.rank ≤ n.toNat) := by
  unfold ofWord
  generalize n.toNat = r
  match r with
  | 0 => cases level <;> rfl
  | 1 => cases level <;> rfl
  | 2 => cases level <;> rfl
  | 3 => cases level <;> rfl
  | 4 => cases level <;> rfl
  | r + 5 => cases level <;> simp [passes, Level.ofRank, Level.rank]

end LogFilter

/-- A message on its way to the log. -/
structure LogRecord where
  level : Level
  target : String
  message : String

namespace LogRecord

/-- The line that the record makes. -/
def line (r : LogRecord) : String := r.target ++ ": " ++ r.message

end LogRecord

/-- One call of the guest to the host's log: a level and the bytes of a line. -/
structure LogCall where
  level : UInt32
  bytes : ByteArray

namespace LogCall

/-- The length that the host is told. -/
def len (c : LogCall) : UInt32 := UInt32.ofNat c.bytes.size

end LogCall

/-- The calls that a record leads to: one if it passes, else none. -/
def LogFilter.forward (f : LogFilter) (r : LogRecord) : List LogCall :=
  if f.passes r.level then [⟨UInt32.ofNat r.level.rank, r.line.toUTF8⟩] else []

end HandleBridge
