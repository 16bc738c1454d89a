import HandleBridge.Store

/-
  The stores of a module that exports several types, one store for each type.

  While a method runs on an instance, the store of its type is borrowed: whoever asks for that
  store then is turned away. The other stores stay open.

  Proved: reading a cell after writing one (`Cells.get_set_same`, `Cells.get_set_other`).
-/

namespace HandleBridge

/-- The types whose instances a module exports, with the name that reports give each of them
and the room that a slot takes. -/
structure Catalog where
  count : Nat
  Value : Fin count → Type
  name : Fin count → String
  slotBytes : Fin count → Nat

/-- A store and whether a call has it in use. -/
structure Cell (α : Type) where
  store : Store α
  borrowed : Bool := false

/-- One cell for each of `n` types. -/
def Cells : (n : Nat) → (Fin n → Type) → Type
  | 0, _ => Unit
  | n + 1, V => Cell (V ⟨0, Nat.zero_lt_succ n⟩) × Cells n fun i => V i.succ

namespace Cells

/-- The cells made by a rule. -/
def tabulate : {n : Nat} → {V : Fin n → Type} → ((k : Fin n) → Cell (V k)) → Cells n V
  | 0, _, _ => ()
  | _ + 1, _, f => (f ⟨0, Nat.zero_lt_succ _⟩, tabulate fun i => f i.succ)

def get : {n : Nat} → {V : Fin n → Type} → Cells n V → (k : Fin n) → Cell (V k)
  | _ + 1, _, (c, _), ⟨0, _⟩ => c
  | _ + 1, _, (_, cs), ⟨i + 1, h⟩ => get cs ⟨i, Nat.lt_of_succ_lt_succ h⟩

def set : {n : Nat} → {V : Fin n → Type} → Cells n V → (k : Fin n) → Cell (V k) → Cells n V
  | _ + 1, _, (_, cs), ⟨0, _⟩, c => (c, cs)
  | _ + 1, _, (c', cs), ⟨i + 1, h⟩, c => (c', set cs ⟨i, Nat.lt_of_succ_lt_succ h⟩ c)

theorem get_set_same : {n : Nat} → {V : Fin n → Type} → (cs : Cells n V) → (k : Fin n) →
    (c : Cell (V k)) → (cs.set k c).get k = c
  | _ + 1, _, (_, _), ⟨0, _⟩, _ => rfl
  | _ + 1, _, (_, cs), ⟨i + 1, h⟩, c => get_set_same cs ⟨i, Nat.lt_of_succ_lt_succ h⟩ c

theorem get_set_other : {n : Nat} → {V : Fin n → Type} → (cs : Cells n V) → (k j : Fin n) →
    (c : Cell (V k)) → j ≠ k → (cs.set k c).get j = cs.get j
  | _ + 1, _, (_, _), ⟨0, _⟩, ⟨0, _⟩, _, hne => absurd rfl hne
  | _ + 1, _, (_, _), ⟨0, _⟩, ⟨_ + 1, _⟩, _, _ => rfl
  | _ + 1, _, (_, _), ⟨_ + 1, _⟩, ⟨0, _⟩, _, _ => rfl
  | _ + 1, _, (_, cs), ⟨i + 1, h⟩, ⟨j + 1, h'⟩, c, hne =>
    get_set_other cs ⟨i, Nat.lt_of_succ_lt_succ h⟩ ⟨j, Nat.lt_of_succ_lt_succ h'⟩ c
      fun e => hne (Fin.ext (congrArg (· + 1) (Fin.val_eq_of_eq e)))

end Cells

/-- All stores of a module and the memory that its instances come from. -/
structure World (M : Catalog) where
  cells : Cells M.count M.Value
  heap : Heap

namespace World

variable {M : Catalog}

/-- No instances yet. -/
def empty (M : Catalog) (heap : Heap) : World M :=
  ⟨Cells.tabulate fun k => ⟨Store.empty .default (M.slotBytes k), false⟩, heap⟩

def cell (w : World M) (k : Fin M.count) : Cell (M.Value k) := w.cells.get k

def setCell (w : World M) (k : Fin M.count) (c : Cell (M.Value k)) : World M :=
  { w with cells := w.cells.set k c }

def store (w : World M) (k : Fin M.count) : Store (M.Value k) := (w.cell k).store

/-- Whether a call has the store of a type in use. -/
def isBorrowed (w : World M) (k : Fin M.count) : Bool := (w.cell k).borrowed

/-- Marks the store of a type as in use or as free. -/
def setBorrowed (w : World M) (k : Fin M.count) (borrowed : Bool) : World M :=
  w.setCell k { w.cell k with borrowed }

/-- The cell of one type, and the stores with an empty one in its place. It stays a call of its
own, so that the place is empty before the work on the store begins. -/
@[noinline] def withdraw (w : World M) (k : Fin M.count) : Cell (M.Value k) × World M :=
  (w.cell k, w.setCell k ⟨{}, w.isBorrowed k⟩)

/-- Works on the store of one type. The store is withdrawn meanwhile, so that it can be changed in
place. -/
def onStore {ε α : Type} (w : World M) (k : Fin M.count)
    (act : Store (M.Value k) → Step ε (Store (M.Value k)) α) : Step ε (World M) α :=
  let (c, rest) := w.withdraw k
  let step := act c.store
  ⟨step.result, rest.setCell k ⟨step.state, c.borrowed⟩, step.events⟩

/-- Registers an instance; the slot table may ask the heap for room. -/
def insert (w : World M) (k : Fin M.count) (v : M.Value k) : Step Fault (World M) Handle :=
  let heap := w.heap.allocator
  { w with heap := w.heap.tick }.onStore k (Store.insert heap v)

/-- Live instances of a type. -/
def live (w : World M) (k : Fin M.count) : Nat := (w.store k).live

/-- Changes how many instances of a type may live. -/
def configure (w : World M) (k : Fin M.count) (limit : StoreLimit) : World M :=
  (w.onStore k fun s => (.ok () (s.setLimit limit) [] : Step Fault _ Unit)).state

/-- What the other side does through an address it was given: it changes the memory of a live
instance, whoever has the store in use. -/
def edit (w : World M) (k : Fin M.count) (raw : UInt32) (f : M.Value k → M.Value k) : World M :=
  (w.onStore k (Store.update raw fun v => ((), f v))).state

theorem cell_setCell_same (w : World M) (k : Fin M.count) (c : Cell (M.Value k)) :
    (w.setCell k c).cell k = c := Cells.get_set_same w.cells k c

theorem cell_setCell_other (w : World M) {k j : Fin M.count} (c : Cell (M.Value k))
    (h : j ≠ k) : (w.setCell k c).cell j = w.cell j := Cells.get_set_other w.cells k j c h

end World

end HandleBridge
