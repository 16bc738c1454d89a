import HandleBridge.Guest.Module

/-
  The reference guest: at most four instances with one string each.

  Its one page of memory begins with a table of four slots of sixteen bytes: a word that says
  whether the slot is live, an unused word, the address of the string and its length. The string
  of a new instance is copied from address 512, and strings are laid out from address 1024 on by
  a counter that only goes up, each followed by a nul. A handle is the number of a slot plus one.
-/

namespace HandleBridge.Guest.Record

/-- What the guest keeps outside its memory: where the next string goes, the log level it was
told, and the fuel it was given, of which it uses none. -/
structure State where
  heap : UInt32 := 1024
  logLevel : UInt32 := 4294967295
  fuel : Option Nat := none

/-- Slots in the table. -/
def slots : Nat := 4

/-- Where a new instance takes its string from. -/
def defaultAddress : Nat := 512

def defaultLength : UInt32 := 9

/-- Where the log line of a new instance lies. -/
def lineAddress : UInt32 := 600

def lineLength : UInt32 := 7

/-- The memory before the first call. -/
def initialMemory : ByteArray :=
  Bytes.overwrite
    (Bytes.overwrite (Bytes.zeros pageBytes) defaultAddress "hey there".toUTF8)
    lineAddress.toNat "created".toUTF8

/-- The address of the slot of a live handle. -/
def slotOf? (memory : ByteArray) (h : UInt32) : Option Nat :=
  if h = 0 ∨ slots < h.toNat then none
  else
    let address := (h.toNat - 1) * 16
    if Bytes.wordAt memory address = 0 then none else some address

/-- The first slot at or after `i` that is not live. -/
def freeSlot? (memory : ByteArray) (i : Nat) : Option Nat :=
  if h : i < slots then
    if Bytes.wordAt memory (i * 16) = 0 then some i else freeSlot? memory (i + 1)
  else none
termination_by slots - i

/-- Room for `n` bytes and a nul, or address zero if the page is used up. Addresses are words
and wrap, so a length close to the largest word is taken for a small one; the nul may then fall
outside the memory. -/
def allocate (n : UInt32) (m : Machine State) : Except Trap UInt32 × Machine State :=
  let p := m.state.heap
  let next := p + (n + 1)
  if 65536 < next then (.ok 0, m)
  else
    let state := { m.state with heap := next }
    let nul := (p + n).toNat
    if nul < m.memory.size then
      (.ok p, ⟨Bytes.overwrite m.memory nul ⟨#[0]⟩, state⟩)
    else (.error .memoryAccess, { m with state })

/-- Sets address and length of a slot. -/
def describe (memory : ByteArray) (slot : Nat) (p n : UInt32) : ByteArray :=
  Bytes.overwrite (Bytes.overwrite memory (slot + 8) (Bytes.ofWord p)) (slot + 12) (Bytes.ofWord n)

def create : Code State UInt32 := fun m =>
  match freeSlot? m.memory 0 with
  | none => ⟨.ok 0, m, []⟩
  | some i =>
    match allocate defaultLength m with
    | (.error trap, m) => ⟨.error trap, m, []⟩
    | (.ok p, m) =>
      if p = 0 then ⟨.ok 0, m, []⟩
      else
        let text := m.memory.extract defaultAddress (defaultAddress + defaultLength.toNat)
        let memory := Bytes.overwrite m.memory p.toNat text
        let memory := Bytes.overwrite memory (i * 16) (Bytes.ofWord 1)
        let memory := describe memory (i * 16) p defaultLength
        ⟨.ok (UInt32.ofNat (i + 1)), ⟨memory, m.state⟩, [⟨4, lineAddress, lineLength, memory⟩]⟩

/-- A word of the slot of a live handle, or zero. -/
def slotWord (offset : Nat) (h : UInt32) : Code State UInt32 := fun m =>
  match slotOf? m.memory h with
  | none => ⟨.ok 0, m, []⟩
  | some slot => ⟨.ok (Bytes.wordAt m.memory (slot + offset)), m, []⟩

def ptr : UInt32 → Code State UInt32 := slotWord 8

def len : UInt32 → Code State UInt32 := slotWord 12

def reserve (h n : UInt32) : Code State UInt32 := fun m =>
  match slotOf? m.memory h with
  | none => ⟨.ok 0, m, []⟩
  | some slot =>
    match allocate n m with
    | (.error trap, m) => ⟨.error trap, m, []⟩
    | (.ok p, m) =>
      if p = 0 then ⟨.ok 0, m, []⟩
      else ⟨.ok p, { m with memory := describe m.memory slot p n }, []⟩

def destroy (h : UInt32) : Code State Unit := fun m =>
  match slotOf? m.memory h with
  | none => ⟨.ok (), m, []⟩
  | some slot =>
    ⟨.ok (), { m with memory := Bytes.overwrite m.memory slot (Bytes.ofWord 0) }, []⟩

/-- Remembers the log level of the host. -/
def initLog (level : UInt32) : Code State Unit := fun m =>
  ⟨.ok (), { m with state := { m.state with logLevel := level } }, []⟩

/-- The five functions. -/
def guest : Guest State := ⟨create, ptr, len, reserve, destroy⟩

/-- The module, with exports named after a type and its field. -/
def module (names : ExportNames) : Module State where
  exports :=
    [(names.memory, .memory), ("theus_init_log", .function (.command initLog)),
      (names.create, .function (.source create)), (names.ptr, .function (.unary ptr)),
      (names.len, .function (.unary len)), (names.reserve, .function (.binary reserve)),
      (names.destroy, .function (.command destroy))]
  start maxMemoryBytes fuel :=
    if maxMemoryBytes < pageBytes then ⟨.error none, []⟩
    else ⟨.ok ⟨initialMemory, { fuel }⟩, []⟩
  fuelLeft := State.fuel

end HandleBridge.Guest.Record
