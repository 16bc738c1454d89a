import HandleBridge.Export.Script
import HandleBridge.Buffer

/-
  The reference module: instances with one string each.

  The other side reads a string in two calls, its length and its address, and writes one by
  asking for room and then copying into it. Whatever goes wrong is answered by zero. Addresses have
  64 bits here, so even the longest string has room for its nul; what becomes of it with 32 bits is
  in `Proofs/Buffer/Widths`.

  A copy goes to or from an address and names no record: `peek` and `poke` find the record in
  whose block the address lies. `read` and `write` are the two protocols with the copy made at
  the record that was named.
-/

namespace HandleBridge

/-- An instance with a string. -/
structure Record where
  content : Buffer

namespace Record

/-- The one type of the module. -/
abbrev catalog : Catalog where
  count := 1
  Value _ := Record
  name _ := "Record"
  slotBytes _ := 32

/-- The string of a new record. -/
def defaultText : String := "hey there"

/-- A new record. Without room for the string it starts empty. If even the byte of an empty string
is refused, the program is aborted; the address 1 stands for that, so what holds whatever the
allocator answers covers a record that no program goes on with. -/
def make : Script catalog Record := do
  let heap ← .allocator
  match Buffer.ofBytes heap defaultText.toUTF8 with
  | .ok content => pure ⟨content⟩
  | .error _ =>
    let heap ← .allocator
    pure ⟨.empty ((heap 1).getD 1)⟩

/-- A new instance, or zero. -/
def create : Script catalog UInt32 := .create 0 make Script.silentDrop

/-- Where the string lies, or zero. -/
def address (raw : UInt32) : Script catalog Nat :=
  .withInstance 0 raw 0 fun r => pure (r, .bare (toOffset r.content.address))

/-- How many bytes the string has. -/
def length (raw : UInt32) : Script catalog UInt32 :=
  .withInstance 0 raw 0 fun r => pure (r, .bare r.content.len)

/-- Makes room for a string of `len` bytes and answers where, or zero. -/
def reserve (raw len : UInt32) : Script catalog Nat :=
  .withInstance 0 raw 0 fun r => do
    .note (.reservingString len.toNat)
    let heap ← .allocator
    match Buffer.reserve heap len.toNat with
    | .ok content => pure (⟨content⟩, .succeeded (.bare (toOffset content.address)))
    | .error cause => pure (r, .failed cause.message)

/-- Ends the life of an instance. -/
def destroy (raw : UInt32) : Script catalog Unit :=
  .take 0 .destroy raw () fun r => do
    .note (.droppingRecord r.content.report)
    pure (.bare ())

/-- The live record in whose block an address lies. -/
def holder (w : World catalog) (address : Nat) : Option (Handle × Record) :=
  (w.store 0).entries.find? fun e => e.2.content.covers address

/-- What the other side finds when it copies `len` bytes from an address. -/
def peek (w : World catalog) (address len : Nat) : Option ByteArray :=
  (holder w address).map fun e =>
    e.2.content.data.extract (address - e.2.content.address) (address - e.2.content.address + len)

/-- The world after the other side copied `bytes` to an address. -/
def poke (w : World catalog) (address : Nat) (bytes : ByteArray) : World catalog :=
  match holder w address with
  | some (h, _) => w.edit 0 h.raw fun r => ⟨r.content.write (address - r.content.address) bytes⟩
  | none => w

/-- A copy into the block of a record, which is made only if it fits. -/
def copyInto (offset : Nat) (bytes : ByteArray) (r : Record) : Record :=
  if offset + bytes.size ≤ r.content.data.size then ⟨r.content.write offset bytes⟩ else r

/-- The world after the other side copied `bytes` to an offset of a string. -/
def copy (raw : UInt32) (offset : Nat) (bytes : ByteArray) (w : World catalog) : World catalog :=
  w.edit 0 raw (copyInto offset bytes)

/-- The call of the other side that writes a string: reserve, then copy. Answers whether there
was room. -/
def write (raw : UInt32) (bytes : ByteArray) (w : World catalog) :
    Except (Abort catalog) (Outcome catalog Bool) := do
  let o ← (reserve raw (UInt32.ofNat bytes.size)).run w
  if o.value = 0 then pure ⟨false, o.world, o.events⟩
  else pure ⟨true, o.world.edit 0 raw fun r => ⟨r.content.write 0 bytes⟩, o.events⟩

/-- The call of the other side that reads a string: length, address, then copy. -/
def read (raw : UInt32) (w : World catalog) :
    Except (Abort catalog) (Outcome catalog (Option ByteArray)) := do
  let o ← (length raw).run w
  let o' ← (address raw).run o.world
  let bytes :=
    if o'.value = 0 then none
    else
      match (o'.world.store 0).get raw with
      | .ok r => some (r.content.data.extract 0 o.value.toNat)
      | .error _ => none
  pure ⟨bytes, o'.world, o.events ++ o'.events⟩

end Record

end HandleBridge
