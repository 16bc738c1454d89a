import HandleBridge.Event
import HandleBridge.Heap

/-
  A store of instances under generational handles.

  Every instance lives in a slot. When it is removed, the slot's generation goes up, so the old
  handle no longer fits; a slot whose generation cannot go up is retired and never used again.
  Vacated slots are reused, the most recently vacated one first; only when there is none does
  the slot table grow.

  An operation returns the store that it leaves behind beside its answer, so that a history is
  a chain of states. `insert` takes the allocator, because growing the table needs memory.
-/

namespace HandleBridge

/-- How many instances may live at once, at most one per slot. -/
structure StoreLimit where
  max : Nat := maxSlots
  max_le : max ≤ maxSlots := by decide
deriving DecidableEq

namespace StoreLimit

/-- One instance per slot. -/
def default : StoreLimit := {}

/-- A limit of `n` instances, or as many as there are slots. -/
def atMost (n : Nat) : StoreLimit := ⟨min n maxSlots, Nat.min_le_right _ _⟩

/-- The limit, for reports. -/
def report (l : StoreLimit) : String := s!"StoreConfig \x7b max_handles: {l.max} \x7d"

end StoreLimit

/-- A place for one instance. -/
structure Slot (α : Type) where
  generation : Nat
  value : Option α

namespace Slot

variable {α : Type}

/-- The slot with an occupant. -/
def fill (v : α) (s : Slot α) : Slot α := { s with value := some v }

/-- The slot without its occupant, for the last time. -/
def retire (s : Slot α) : Slot α := { s with value := none }

/-- The slot without its occupant, ready for the next one. -/
def vacate (s : Slot α) : Slot α := { generation := s.generation + 1, value := none }

end Slot

/-- Instances of one type and the slots they live in. -/
structure Store (α : Type) where
  slots : Array (Slot α) := #[]
  /-- Vacant slots that may be used again, the most recently vacated first. -/
  free : List Nat := []
  live : Nat := 0
  retired : Nat := 0
  limit : StoreLimit := .default
  /-- The room that one slot takes in the slot table. -/
  slotBytes : Nat := 32

namespace Store

variable {α β : Type}

/-- A store without slots. -/
def empty (limit : StoreLimit) (slotBytes : Nat) : Store α := { limit, slotBytes }

/-- Slots so far, live, vacant or retired. -/
def capacity (s : Store α) : Nat := s.slots.size

def isEmpty (s : Store α) : Bool := s.live == 0

/-- The generation of a slot; a slot that does not exist counts as new. -/
def generationAt (s : Store α) (i : Nat) : Nat :=
  match s.slots[i]? with
  | some slot => slot.generation
  | none => 0

/-- How many slots the table must have room for after growing, when one more is needed beside
the `used` ones; nothing if there is room. A table starts with room for four slots, or for one
if slots are large, and doubles. -/
def tableGrowth? (slotBytes used : Nat) : Option Nat :=
  let start := if slotBytes ≤ 1024 then 4 else 1
  if used = 0 then some start
  else if start ≤ used && 1 <<< used.log2 == used then some (2 * used)
  else none

/-- Whether the allocator lets the table take one more slot. -/
def mayGrow (heap : Allocator) (s : Store α) : Bool :=
  match tableGrowth? s.slotBytes s.slots.size with
  | none => true
  | some n => heap.grants (n * s.slotBytes)

/-- The fault of a store that takes no more instances. -/
def exhausted (s : Store α) : Fault := .capacityExhausted s.limit.max

/-- Takes an instance and issues its handle. -/
def insert (heap : Allocator) (v : α) (s : Store α) : Step Fault (Store α) Handle :=
  if s.limit.max ≤ s.live then .failed s.exhausted s []
  else
    match s.free with
    | i :: rest =>
      match Handle.new? i (s.generationAt i) with
      | some h =>
        .ok h { s with slots := s.slots.modify i (·.fill v), free := rest, live := s.live + 1 }
          [.slotReused h]
      | none => .failed s.exhausted { s with free := rest } []
    | [] =>
      match Handle.new? s.slots.size 0 with
      | some h =>
        if s.mayGrow heap then
          .ok h { s with slots := s.slots.push ⟨0, some v⟩, live := s.live + 1 } [.slotAllocated h]
        else .failed (.outOfMemory s.slotBytes) s []
      | none => .failed s.exhausted s []

/-- The live instance that a word names. -/
def lookup (s : Store α) (raw : UInt32) : Option (Handle × α) :=
  match Handle.ofRaw? raw with
  | none => none
  | some h =>
    match s.slots[h.slot]? with
    | none => none
    | some slot =>
      if slot.generation = h.generation then slot.value.map fun v => (h, v) else none

/-- The live instance behind a word, or the fault. -/
def get (raw : UInt32) (s : Store α) : Except Fault α :=
  match s.lookup raw with
  | some (_, v) => .ok v
  | none => .error (.invalidHandle raw)

def contains (raw : UInt32) (s : Store α) : Bool := (s.lookup raw).isSome

/-- Puts another value in the place of a live instance. -/
def set (raw : UInt32) (v : α) (s : Store α) : Store α :=
  match s.lookup raw with
  | some (h, _) => { s with slots := s.slots.modify h.slot (·.fill v) }
  | none => s

/-- Changes a live instance in place and answers what `f` answers. -/
def update (raw : UInt32) (f : α → β × α) (s : Store α) : Step Fault (Store α) β :=
  match s.lookup raw with
  | some (_, v) => .ok (f v).1 (s.set raw (f v).2) []
  | none => .failed (.invalidHandle raw) s []

/-- Ends the life of an instance and hands it back. -/
def remove (raw : UInt32) (s : Store α) : Step Fault (Store α) α :=
  match s.lookup raw with
  | none => .failed (.invalidHandle raw) s []
  | some (h, v) =>
    if h.generation = maxGeneration then
      .ok v
        { s with
          slots := s.slots.modify h.slot Slot.retire
          live := s.live - 1
          retired := s.retired + 1 }
        [.slotRetired h]
    else
      .ok v
        { s with
          slots := s.slots.modify h.slot Slot.vacate
          live := s.live - 1
          free := h.slot :: s.free }
        []

/-- The live instance of a slot with its handle. -/
def entryOf (slot : Slot α) (i : Nat) : Option (Handle × α) :=
  match slot.value, Handle.new? i slot.generation with
  | some v, some h => some (h, v)
  | _, _ => none

/-- All live instances in the order of their slots. -/
def entries (s : Store α) : List (Handle × α) :=
  s.slots.toList.zipIdx.filterMap fun p => entryOf p.1 p.2

/-- The handles of all live instances in the order of their slots. -/
def handles (s : Store α) : List Handle := s.entries.map Prod.fst

/-- Removes one handle after another and gathers what happened. -/
def removeAll : List Handle → Store α → Store α × List Event
  | [], s => (s, [])
  | h :: hs, s =>
    let step := s.remove h.raw
    let rest := removeAll hs step.state
    (rest.1, step.events ++ rest.2)

/-- Ends the life of every instance. -/
def clear (s : Store α) : Step Fault (Store α) Unit :=
  let cleared := removeAll s.handles s
  .ok () cleared.1 cleared.2

/-- Changes the limit. Live instances stay. -/
def setLimit (limit : StoreLimit) (s : Store α) : Store α := { s with limit }

end Store

end HandleBridge
