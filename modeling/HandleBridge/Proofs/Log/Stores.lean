import HandleBridge.Proofs.Log.Sessions
import HandleBridge.Store.Bulk
import HandleBridge.Record

/-
  The log of stores, of exported functions and of records.

  Only rows of insertions look at the level, to keep no more events than will be shown. They
  come out the same, and what they keep at a lower level is what is visible there of what they
  keep at a higher one. The reports of records are those of buffers with 64-bit addresses; with 32
  bits a buffer can lose its nul, which is in `Proofs/Buffer/Widths`.

  Proved:
  * `Store.fill_visible`, `Store.churn_visible`: rows of operations at two levels.
  * `Store.console_follows`, `World.console_follows`, `Record.console_follows`: sessions at two
    levels go on side by side.
-/

namespace HandleBridge

/-! ## Stores -/

namespace Store

variable {α : Type} {heap : Allocator} {make : Nat → α} {ceiling ceiling' : Nat} {n m : UInt32}

theorem visible_pushed (h : ceiling ≤ ceiling') (es log : List Event) :
    Event.visible ceiling ((Event.visible ceiling' es).foldl (fun l e => e :: l) log) =
      (Event.visible ceiling es).foldl (fun l e => e :: l) (Event.visible ceiling log) := by
  have hpush (xs ys : List Event) : xs.foldl (fun l e => e :: l) ys = xs.reverse ++ ys := by
    simp
  rw [hpush, hpush, Event.visible_append, ← Event.visible_visible h es]
  congr 1
  exact List.filter_reverse

/-- Filling at a lower level leaves the same, and keeps what is visible there. -/
theorem fill_visible (h : ceiling ≤ ceiling') (k : Nat) (p : Progress) (s : Store α)
    (log : List Event) :
    s.fill heap ceiling make k p (Event.visible ceiling log) =
      ((s.fill heap ceiling' make k p log).1, (s.fill heap ceiling' make k p log).2.1,
        Event.visible ceiling (s.fill heap ceiling' make k p log).2.2) := by
  induction k generalizing p s log with
  | zero => rfl
  | succ k ih =>
    rw [fill, fill, ← visible_pushed h]
    cases (s.insert heap (make p.done)).result with
    | error cause => rfl
    | ok handle => exact ih _ _ _

theorem churn_visible (h : ceiling ≤ ceiling') (k : Nat) (p : Progress) (s : Store α)
    (log : List Event) :
    s.churn heap ceiling make k p (Event.visible ceiling log) =
      ((s.churn heap ceiling' make k p log).1, (s.churn heap ceiling' make k p log).2.1,
        Event.visible ceiling (s.churn heap ceiling' make k p log).2.2) := by
  induction k generalizing p s log with
  | zero => rfl
  | succ k ih =>
    rw [churn, churn]
    dsimp only
    -- what the two operations do plays no part: kept abstract, nothing below unfolds them
    obtain ⟨insert, hinsert⟩ : ∃ f, f = @Store.insert α := ⟨_, rfl⟩
    obtain ⟨remove, hremove⟩ : ∃ f, f = @Store.remove α := ⟨_, rfl⟩
    rw [← hinsert, ← hremove, ← visible_pushed h]
    cases (insert heap (make p.done) s).result with
    | error cause => rfl
    | ok handle =>
      dsimp only
      rw [← visible_pushed h]
      cases (remove handle.raw (insert heap (make p.done) s).state).result with
      | error cause => rfl
      | ok v => exact ih _ _ _

/-- Rows of operations at two levels, with the events in their order. -/
theorem rows_alike {f : Nat → Progress × Store α × List Event}
    (hf : ∀ {c c'}, c ≤ c' → f c = ((f c').1, (f c').2.1, Event.visible c (f c').2.2))
    (n m : UInt32) :
    (f n.toNat).1 = (f m.toNat).1 ∧ (f n.toNat).2.1 = (f m.toNat).2.1 ∧
      Console.Among n m (f n.toNat).2.2.reverse (f m.toNat).2.2.reverse := by
  have hsame : (f n.toNat).1 = (f m.toNat).1 ∧ (f n.toNat).2.1 = (f m.toNat).2.1 := by
    rcases Nat.le_total n.toNat m.toNat with h | h
    · rw [hf h]
      exact ⟨rfl, rfl⟩
    · rw [hf h]
      exact ⟨rfl, rfl⟩
  refine ⟨hsame.1, hsame.2, fun h => ?_⟩
  have hle := UInt32.le_iff_toNat_le.1 h
  rw [← Event.reported_of_le h, hf hle]
  unfold Event.reported
  rw [← Event.visible_visible (Nat.le_refl n.toNat) (f m.toNat).2.2.reverse]
  congr 2
  exact List.filter_reverse.symm

/-- What a store may be asked. -/
inductive Request (α : Type) : Type 1 where
  /-- Take `v` in; `heap` is how the allocator would answer just then. -/
  | insert (heap : Allocator) (v : α)
  | get (raw : UInt32)
  | contains (raw : UInt32)
  /-- Change the instance behind a word in place, and answer what it was. -/
  | update (raw : UInt32) (f : α → α)
  | remove (raw : UInt32)
  | clear
  | limit
  | setLimit (limit : StoreLimit)
  | isEmpty
  | live
  | capacity
  | retired
  | handles
  | entries
  | fill (heap : Allocator) (make : Nat → α) (k : Nat)
  | churn (heap : Allocator) (make : Nat → α) (k : Nat)

namespace Request

/-- The type of the answer. -/
abbrev Answer : Request α → Type
  | insert _ _ => Except Fault Handle
  | get _ => Except Fault α
  | contains _ => Bool
  | update _ _ => Except Fault α
  | remove _ => Except Fault α
  | clear => Except Fault Unit
  | limit => StoreLimit
  | setLimit _ => Unit
  | isEmpty => Bool
  | live => Nat
  | capacity => Nat
  | retired => Nat
  | handles => List Handle
  | entries => List (Handle × α)
  | fill _ _ _ => Progress
  | churn _ _ _ => Progress

def play (level : UInt32) : (r : Request α) → Store α → (r.Answer × Store α) × List Event
  | insert heap v, s => (s.insert heap v).reply
  | get raw, s => ((s.get raw, s), [])
  | contains raw, s => ((s.contains raw, s), [])
  | update raw f, s => (s.update raw fun v => (v, f v)).reply
  | remove raw, s => (s.remove raw).reply
  | clear, s => s.clear.reply
  | limit, s => ((s.limit, s), [])
  | setLimit l, s => (((), s.setLimit l), [])
  | isEmpty, s => ((s.isEmpty, s), [])
  | live, s => ((s.live, s), [])
  | capacity, s => ((s.capacity, s), [])
  | retired, s => ((s.retired, s), [])
  | handles, s => ((s.handles, s), [])
  | entries, s => ((s.entries, s), [])
  | fill heap make k, s =>
    let row := s.fill heap level.toNat make k {} []
    ((row.1, row.2.1), row.2.2.reverse)
  | churn heap make k, s =>
    let row := s.churn heap level.toNat make k {} []
    ((row.1, row.2.1), row.2.2.reverse)

theorem play_alike (r : Request α) (s : Store α) (n m : UInt32) :
    (r.play n s).1 = (r.play m s).1 ∧ Console.Among n m (r.play n s).2 (r.play m s).2 := by
  cases r
  case fill heap make k =>
    obtain ⟨hp, hs, he⟩ := rows_alike (f := fun c => s.fill heap c make k {} [])
      (fun h => fill_visible h k {} s []) n m
    exact ⟨Prod.ext hp hs, he⟩
  case churn heap make k =>
    obtain ⟨hp, hs, he⟩ := rows_alike (f := fun c => s.churn heap c make k {} [])
      (fun h => churn_visible h k {} s []) n m
    exact ⟨Prod.ext hp hs, he⟩
  all_goals exact ⟨rfl, Console.among_self _⟩

end Request

/-- Operations on a store. -/
def console (s : Store α) : Console where
  State := Store α
  Request := Request α
  Answer := Request.Answer
  Stop := Empty
  start _ := (.ok s, [])
  play level r s := (.ok (r.play level s).1, (r.play level s).2)
  shown := id

theorem console_follows (s : Store α) : s.console.Follows Eq where
  shown := congrArg id
  start _ _ := ⟨.ok rfl, Console.among_self _⟩
  play n m r s s' hs := by
    cases hs
    obtain ⟨hr, he⟩ := Request.play_alike r s n m
    exact ⟨.ok ⟨congrArg Prod.fst hr, congrArg Prod.snd hr⟩, he⟩

/-- How many lines one insertion gives, at a level that shows it and at the one below. -/
example :
    let row : List (Request Nat) := [.fill (fun _ => some 0) id 1]
    (((empty .default 32).console.session 4 row).lines.map List.length,
      ((empty .default 32).console.session 3 row).lines.map List.length) = ([0, 1], [0, 0]) := by
  decide +kernel

end Store

/-! ## Exported functions -/

variable {M : Catalog} {α : Type}

/-- What a script answers and leaves, and its events. -/
def Script.reply (r : Except (Abort M) (Outcome M α)) :
    Except (Abort M) (α × World M) × List Event :=
  match r with
  | .ok o => (.ok (o.value, o.world), o.events)
  | .error a => (.error a, [])

namespace World

/-- What the other side may do: call exported functions, and write to the memory of an instance. -/
inductive Request (M : Catalog) : Type 1 where
  | call {α : Type} (script : Script M α)
  | edit (k : Fin M.count) (raw : UInt32) (f : M.Value k → M.Value k)

namespace Request

abbrev Answer : Request M → Type
  | call (α := α) _ => α
  | edit _ _ _ => Unit

def play : (r : Request M) → World M → Except (Abort M) (r.Answer × World M) × List Event
  | call script, w => Script.reply (script.run w)
  | edit k raw f, w => (.ok ((), w.edit k raw f), [])

end Request

/-- Calls of exported functions. -/
def console (w : World M) : Console where
  State := World M
  Request := Request M
  Answer := Request.Answer
  Stop := Abort M
  start _ := (.ok w, [])
  play _ := Request.play
  shown := id

theorem console_follows (w : World M) : w.console.Follows Eq :=
  Console.follows_eq (fun _ _ => rfl) fun _ _ _ _ => rfl

end World

/-! ## Records -/

namespace Record

/-- What the other side may do with records. -/
inductive Request : Type 1 where
  | create
  | address (raw : UInt32)
  | length (raw : UInt32)
  | reserve (raw n : UInt32)
  | destroy (raw : UInt32)
  | write (raw : UInt32) (bytes : ByteArray)
  | read (raw : UInt32)
  | copy (raw : UInt32) (offset : Nat) (bytes : ByteArray)
  | configure (limit : StoreLimit)

namespace Request

abbrev Answer : Request → Type
  | create => UInt32
  | address _ => Nat
  | length _ => UInt32
  | reserve _ _ => Nat
  | destroy _ => Unit
  | write _ _ => Bool
  | read _ => Option ByteArray
  | copy _ _ _ => Unit
  | configure _ => Unit

def play : (r : Request) → World catalog →
    Except (Abort catalog) (r.Answer × World catalog) × List Event
  | create, w => Script.reply (Record.create.run w)
  | address raw, w => Script.reply ((Record.address raw).run w)
  | length raw, w => Script.reply ((Record.length raw).run w)
  | reserve raw n, w => Script.reply ((Record.reserve raw n).run w)
  | destroy raw, w => Script.reply ((Record.destroy raw).run w)
  | write raw bytes, w => Script.reply (Record.write raw bytes w)
  | read raw, w => Script.reply (Record.read raw w)
  | copy raw offset bytes, w => (.ok ((), Record.copy raw offset bytes w), [])
  | configure limit, w => Script.reply ((Script.configure ⟨0, Nat.one_pos⟩ limit).run w)

end Request

/-- Calls on records. -/
def console (w : World catalog) : Console where
  State := World catalog
  Request := Request
  Answer := Request.Answer
  Stop := Abort catalog
  start _ := (.ok w, [])
  play _ := Request.play
  shown := id

theorem console_follows (w : World catalog) : (console w).Follows Eq :=
  Console.follows_eq (fun _ _ => rfl) fun _ _ _ _ => rfl

end Record

end HandleBridge
