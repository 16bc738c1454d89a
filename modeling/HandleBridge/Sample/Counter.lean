import HandleBridge.Sample.Types
import HandleBridge.Decimal.Binary64

/-
  The exports of the counter. Among them are results of every shape: plain ones, optional ones,
  ones that fail, and an optional result that fails.
-/

namespace HandleBridge.Sample.Counter

/-- A method that only looks at a counter. -/
def inspect {α : Type} (raw : UInt32) (sentinel : α) (f : Counter → Layered α) :
    Script catalog α :=
  .withInstance counterType raw sentinel fun (c : Counter) => pure (c, f c)

/-- A counter at zero without a label. -/
def make : Script catalog Counter := do
  let heap ← .allocator
  pure ⟨0, .empty ((heap 1).getD 1)⟩

def create : Script catalog UInt32 := .create counterType make Script.silentDrop

/-- Adds `by`; past the largest word it goes on from zero. -/
def increment (raw : UInt32) (amount : UInt64) : Script catalog UInt64 :=
  .withInstance counterType raw 0 fun (c : Counter) =>
    let value := c.value + amount
    pure (⟨value, c.label⟩, .bare value)

def getValue (raw : UInt32) : Script catalog UInt64 := inspect raw 0 fun c => .bare c.value

/-- Where the label lies, or zero. -/
def labelAddress (raw : UInt32) : Script catalog Nat :=
  inspect raw 0 fun c => .bare (toOffset c.label.address)

def labelLength (raw : UInt32) : Script catalog UInt32 := inspect raw 0 fun c => .bare c.label.len

/-- Makes room for a label of `len` bytes and answers where, or zero. -/
def reserveLabel (raw len : UInt32) : Script catalog Nat :=
  .withInstance counterType raw 0 fun (c : Counter) => do
    let heap ← .allocator
    match Buffer.reserve heap len.toNat with
    | .ok label => pure (⟨c.value, label⟩, .succeeded (.bare (toOffset label.address)))
    | .error cause => pure (c, .failed cause.message)

/-- The quotient, if there is one. -/
def checkedDiv (raw : UInt32) (divisor : UInt64) : Script catalog UInt64 :=
  inspect raw 0 fun c => if divisor = 0 then .absent else .present (.bare (c.value / divisor))

/-- Subtracts `amount` if the counter is large enough. -/
def subtract (raw : UInt32) (amount : UInt64) : Script catalog UInt64 :=
  .withInstance counterType raw 0 fun (c : Counter) =>
    if c.value < amount then
      pure (c, .failed s!"cannot take {amount.toNat} from {c.value.toNat}")
    else
      let value := c.value - amount
      pure (⟨value, c.label⟩, .succeeded (.bare value))

/-- The value as a digit. Two digits are an error, more are no digit at all. -/
def digit (raw : UInt32) : Script catalog Char :=
  inspect raw '\x00' fun c =>
    if c.value < 10 then .present (.succeeded (.bare (Char.ofNat (48 + c.value.toNat))))
    else if c.value < 100 then .present (.failed s!"{c.value.toNat} has two digits")
    else .absent

def isEven (raw : UInt32) : Script catalog Bool :=
  inspect raw false fun c => .bare (c.value % 2 == 0)

/-- Half the value as the bits of a floating point number. -/
def half (raw : UInt32) : Script catalog UInt64 :=
  inspect raw 0 fun c => .bare (UInt64.ofNat (Decimal.Binary64.ofRatio c.value.toNat 2).toBits)

/-- The value with its sign changed, as a signed word. -/
def negated (raw : UInt32) : Script catalog Int64 := inspect raw 0 fun c => .bare (-c.value.toInt64)

/-- The version of the exports. -/
def version : Script catalog UInt32 := Script.direct 0 (.bare 3)

/-- The value of a decimal digit. -/
def parseDigit (c : Char) : Script catalog UInt8 :=
  Script.direct 0 <|
    if c.isDigit then .present (.bare (UInt8.ofNat (c.toNat - 48))) else .absent

/-- Ends the counter and answers its last value. -/
def finish (raw : UInt32) : Script catalog UInt64 :=
  .take counterType .consume raw 0 fun (c : Counter) => pure (.bare c.value)

def destroy (raw : UInt32) : Script catalog Unit :=
  .take counterType .destroy raw () fun _ => pure (.bare ())

/-- The low half of the value and a hundred. -/
def describe (raw : UInt32) : Script catalog UInt32 :=
  inspect raw 0 fun c => .bare (c.value.toUInt32 + 100)

/-- Sets the value. -/
def reset (raw : UInt32) (value : UInt64) : Script catalog Unit :=
  .withInstance counterType raw () fun (c : Counter) => pure (⟨value, c.label⟩, .bare ())

/-- Ends the counter and answers the low byte of its value. -/
def intoLowByte (raw : UInt32) : Script catalog UInt8 :=
  .take counterType .consume raw 0 fun (c : Counter) => pure (.bare c.value.toUInt8)

/-- The call of the other side that writes a label: reserve, then copy. Answers whether there
was room. -/
def writeLabel (raw : UInt32) (bytes : ByteArray) (w : World catalog) :
    Except (Abort catalog) (Outcome catalog Bool) := do
  let o ← (reserveLabel raw (UInt32.ofNat bytes.size)).run w
  if o.value = 0 then pure ⟨false, o.world, o.events⟩
  else
    let write := fun (c : Counter) => { c with label := c.label.write 0 bytes }
    pure ⟨true, o.world.edit 0 raw write, o.events⟩

/-- The call of the other side that reads a label: length, address, then copy. -/
def readLabel (raw : UInt32) (w : World catalog) :
    Except (Abort catalog) (Outcome catalog (Option ByteArray)) := do
  let o ← (labelLength raw).run w
  let o' ← (labelAddress raw).run o.world
  let bytes :=
    if o'.value = 0 then none
    else
      match (o'.world.store 0).get raw with
      | .ok (c : Counter) => some (c.label.data.extract 0 o.value.toNat)
      | .error _ => none
  pure ⟨bytes, o'.world, o.events ++ o'.events⟩

end HandleBridge.Sample.Counter
