import HandleBridge.Export.World
import HandleBridge.Proofs.Store.Contents

/-
  The stores of a world, one at a time.

  All that is done to a store of a world leaves the other stores, the marks of the stores in use
  and the heap alone. `withStore` names the world with another store of one type, and `onStore`
  is brought to that form once; so what follows speaks of the one store and of the mark only.

  Proved:
  * `onStore_eq`: work on one store, in terms of that store.
  * `store_withStore`, `store_setBorrowed`, ...: what either change leaves of a world.
  * `register_of_borrowed`, `remove_of_borrowed` and their likes: a store in use is left alone.
-/

namespace HandleBridge

namespace Cells

theorem set_get : {n : Nat} → {V : Fin n → Type} → (cs : Cells n V) → (k : Fin n) →
    cs.set k (cs.get k) = cs
  | _ + 1, _, (_, _), ⟨0, _⟩ => rfl
  | _ + 1, _, (c, cs), ⟨i + 1, h⟩ => congrArg (Prod.mk c) (set_get cs ⟨i, Nat.lt_of_succ_lt_succ h⟩)

theorem set_set : {n : Nat} → {V : Fin n → Type} → (cs : Cells n V) → (k : Fin n) →
    (c c' : Cell (V k)) → (cs.set k c).set k c' = cs.set k c'
  | _ + 1, _, (_, _), ⟨0, _⟩, _, _ => rfl
  | _ + 1, _, (d, cs), ⟨i + 1, h⟩, c, c' =>
    congrArg (Prod.mk d) (set_set cs ⟨i, Nat.lt_of_succ_lt_succ h⟩ c c')

theorem get_tabulate : {n : Nat} → {V : Fin n → Type} → (f : (k : Fin n) → Cell (V k)) →
    (k : Fin n) → (tabulate f).get k = f k
  | _ + 1, _, _, ⟨0, _⟩ => rfl
  | _ + 1, _, f, ⟨i + 1, h⟩ => get_tabulate (fun i => f i.succ) ⟨i, Nat.lt_of_succ_lt_succ h⟩

end Cells

namespace World

variable {M : Catalog} {k j : Fin M.count} {w : World M} {raw : UInt32} {v : M.Value k}

/-- The world with another store of one type. -/
def withStore (w : World M) (k : Fin M.count) (s : Store (M.Value k)) : World M :=
  w.setCell k ⟨s, w.isBorrowed k⟩

/-- The world after one more request for memory. -/
def ticked (w : World M) : World M := { w with heap := w.heap.tick }

theorem store_ticked (w : World M) (k : Fin M.count) : w.ticked.store k = w.store k := rfl

theorem isBorrowed_ticked (w : World M) (k : Fin M.count) : w.ticked.isBorrowed k = w.isBorrowed k :=
  rfl

theorem setCell_cell (w : World M) (k : Fin M.count) : w.setCell k (w.cell k) = w := by
  show { w with cells := w.cells.set k (w.cells.get k) } = w
  rw [Cells.set_get]

theorem setCell_setCell (w : World M) (k : Fin M.count) (c c' : Cell (M.Value k)) :
    (w.setCell k c).setCell k c' = w.setCell k c' := by
  show { w with cells := (w.cells.set k c).set k c' } = _
  rw [Cells.set_set]
  rfl

theorem store_empty (heap : Heap) (k : Fin M.count) :
    (empty M heap).store k = Store.empty .default (M.slotBytes k) := by
  show ((Cells.tabulate _).get k).store = _
  rw [Cells.get_tabulate]

theorem isBorrowed_empty (heap : Heap) (k : Fin M.count) : (empty M heap).isBorrowed k = false := by
  show ((Cells.tabulate _).get k).borrowed = _
  rw [Cells.get_tabulate]

/-! ## Another store -/

theorem store_withStore (w : World M) (s : Store (M.Value k)) : (w.withStore k s).store k = s := by
  show ((w.setCell k _).cell k).store = s
  rw [cell_setCell_same]

theorem store_withStore_other (w : World M) (s : Store (M.Value k)) (hj : j ≠ k) :
    (w.withStore k s).store j = w.store j := by
  show ((w.setCell k _).cell j).store = _
  rw [cell_setCell_other w _ hj]
  rfl

theorem isBorrowed_withStore (w : World M) (s : Store (M.Value k)) (j : Fin M.count) :
    (w.withStore k s).isBorrowed j = w.isBorrowed j := by
  show ((w.setCell k _).cell j).borrowed = _
  by_cases hj : j = k
  · subst hj
    rw [cell_setCell_same]
  · rw [cell_setCell_other w _ hj]
    rfl

theorem withStore_store (w : World M) (k : Fin M.count) : w.withStore k (w.store k) = w :=
  setCell_cell w k

theorem onStore_eq {ε α : Type} (w : World M)
    (act : Store (M.Value k) → Step ε (Store (M.Value k)) α) :
    w.onStore k act = ⟨(act (w.store k)).result, w.withStore k (act (w.store k)).state,
      (act (w.store k)).events⟩ := by
  show Step.mk _ ((w.setCell k _).setCell k _) _ = _
  rw [setCell_setCell]
  rfl

theorem insert_eq (w : World M) (v : M.Value k) :
    w.insert k v = ⟨((w.store k).insert w.heap.allocator v).result,
      w.ticked.withStore k ((w.store k).insert w.heap.allocator v).state,
      ((w.store k).insert w.heap.allocator v).events⟩ := onStore_eq w.ticked _

/-! ## The mark of a store in use -/

theorem store_setBorrowed (w : World M) (b : Bool) (j : Fin M.count) :
    (w.setBorrowed k b).store j = w.store j := by
  show ((w.setCell k _).cell j).store = _
  by_cases hj : j = k
  · subst hj
    rw [cell_setCell_same]
    rfl
  · rw [cell_setCell_other w _ hj]
    rfl

theorem heap_setBorrowed (w : World M) (b : Bool) : (w.setBorrowed k b).heap = w.heap := rfl

theorem isBorrowed_setBorrowed_same (w : World M) (k : Fin M.count) (b : Bool) :
    (w.setBorrowed k b).isBorrowed k = b := by
  show ((w.setCell k _).cell k).borrowed = b
  rw [cell_setCell_same]

theorem isBorrowed_setBorrowed_other (w : World M) {b : Bool} (hj : j ≠ k) :
    (w.setBorrowed k b).isBorrowed j = w.isBorrowed j := by
  show ((w.setCell k _).cell j).borrowed = _
  rw [cell_setCell_other w _ hj]
  rfl

theorem setBorrowed_eq (w : World M) (b : Bool) :
    w.setBorrowed k b = w.setCell k ⟨w.store k, b⟩ := rfl

theorem setBorrowed_setBorrowed (w : World M) (k : Fin M.count) (b : Bool) :
    (w.setBorrowed k b).setBorrowed k (w.isBorrowed k) = w := by
  rw [setBorrowed_eq, store_setBorrowed, setBorrowed_eq, setCell_setCell]
  exact setCell_cell w k

/-- A store that was marked, replaced and marked as before is just replaced. -/
theorem setBorrowed_withStore_setBorrowed (w : World M) (b : Bool) (s : Store (M.Value k)) :
    ((w.setBorrowed k b).withStore k s).setBorrowed k (w.isBorrowed k) = w.withStore k s := by
  rw [setBorrowed_eq, store_withStore, withStore, setBorrowed_eq, setCell_setCell, setCell_setCell]
  rfl

/-! ## Registering and removing -/

/-- Registers an instance, unless the store is in use. -/
def register (w : World M) (k : Fin M.count) (v : M.Value k) : Step Fault (World M) Handle :=
  if w.isBorrowed k then .failed .reentrant w [] else w.insert k v

/-- Takes a live instance out, unless the store is in use. -/
def remove (w : World M) (k : Fin M.count) (raw : UInt32) : Step Fault (World M) (M.Value k) :=
  if w.isBorrowed k then .failed .reentrant w [] else w.onStore k (·.remove raw)

/-- No call has a store in use. -/
def Idle (w : World M) : Prop := ∀ k, w.isBorrowed k = false

/-- Every store is well formed. -/
def WellFormed (w : World M) : Prop := ∀ k, (w.store k).WellFormed

theorem register_of_borrowed (hb : w.isBorrowed k = true) :
    w.register k v = .failed .reentrant w [] := if_pos hb

theorem register_of_free (hb : w.isBorrowed k = false) : w.register k v = w.insert k v :=
  if_neg (Bool.eq_false_iff.1 hb)

theorem remove_of_borrowed (hb : w.isBorrowed k = true) :
    w.remove k raw = .failed .reentrant w [] := if_pos hb

theorem remove_of_free (hb : w.isBorrowed k = false) :
    w.remove k raw = ⟨((w.store k).remove raw).result,
      w.withStore k ((w.store k).remove raw).state, ((w.store k).remove raw).events⟩ := by
  unfold remove
  rw [if_neg (Bool.eq_false_iff.1 hb), onStore_eq]

theorem isBorrowed_register (w : World M) (v : M.Value k) (j : Fin M.count) :
    (w.register k v).state.isBorrowed j = w.isBorrowed j := by
  cases hb : w.isBorrowed k with
  | true => rw [register_of_borrowed hb]; rfl
  | false => rw [register_of_free hb, insert_eq, isBorrowed_withStore, isBorrowed_ticked]

theorem isBorrowed_remove (w : World M) (k : Fin M.count) (raw : UInt32) (j : Fin M.count) :
    (w.remove k raw).state.isBorrowed j = w.isBorrowed j := by
  cases hb : w.isBorrowed k with
  | true => rw [remove_of_borrowed hb]; rfl
  | false => rw [remove_of_free hb, isBorrowed_withStore]

end World

end HandleBridge
