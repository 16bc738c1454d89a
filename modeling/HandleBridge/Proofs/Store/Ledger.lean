import HandleBridge.Proofs.Store.Contents
import HandleBridge.Proofs.Store.Lifetimes
import Mathlib.Logic.Function.Basic

/-
  The ledger of a store: who came, who changed, who left.

  A past is a list of moves. It tells by itself which handle holds which value at its end
  (`held`). A store keeps its ledger if that is what the store holds, and if the past is one in
  which every handle is registered once and received at most once, as the value that it held.
  What makes a handle new is its age: a place has gone past the handles that it registered.

  Proved:
  * `ledger_empty`: an empty store keeps the empty ledger.
  * `Ledger.of_issues`, `Ledger.of_changes`, `Ledger.of_ends`: each kind of step keeps it.
  * `Trail.ledger`: so does any number of steps.
-/

namespace HandleBridge

/-- What happens to an instance of one type. -/
inductive Move (α : Type) where
  /-- It got a handle. -/
  | registered (raw : UInt32) (v : α)
  /-- A method that had it on loan gave it back as `v`. -/
  | changed (raw : UInt32) (v : α)
  /-- A method received it for good, as `v`. -/
  | received (raw : UInt32) (v : α)

namespace Move

variable {α : Type}

/-- What the handles hold after a move. -/
def apply : Move α → (UInt32 → Option α) → UInt32 → Option α
  | registered raw v, m => Function.update m raw (some v)
  | changed raw v, m => Function.update m raw (some v)
  | received raw _, m => Function.update m raw none

def registered? : Move α → Option UInt32
  | registered raw _ => some raw
  | _ => none

def received? : Move α → Option UInt32
  | received raw _ => some raw
  | _ => none

end Move

section Past

variable {α : Type}

/-- What the handles hold after all these moves. -/
def held (past : List (Move α)) : UInt32 → Option α :=
  past.foldl (fun m move => move.apply m) fun _ => none

/-- The handles that were registered, in order. -/
def registered (past : List (Move α)) : List UInt32 := past.filterMap Move.registered?

/-- The handles whose instances were received, in order. -/
def received (past : List (Move α)) : List UInt32 := past.filterMap Move.received?

theorem held_snoc (past : List (Move α)) (m : Move α) :
    held (past ++ [m]) = m.apply (held past) := List.foldl_concat _ _ _ _

section Snoc

variable (past : List (Move α)) (raw : UInt32) (v : α)

@[simp] theorem registered_snoc_registered :
    registered (past ++ [.registered raw v]) = registered past ++ [raw] := by
  unfold registered
  rw [List.filterMap_append]
  rfl

@[simp] theorem registered_snoc_changed :
    registered (past ++ [.changed raw v]) = registered past := by
  unfold registered
  rw [List.filterMap_append]
  exact List.append_nil _

@[simp] theorem registered_snoc_received :
    registered (past ++ [.received raw v]) = registered past := by
  unfold registered
  rw [List.filterMap_append]
  exact List.append_nil _

@[simp] theorem received_snoc_registered :
    received (past ++ [.registered raw v]) = received past := by
  unfold received
  rw [List.filterMap_append]
  exact List.append_nil _

@[simp] theorem received_snoc_changed :
    received (past ++ [.changed raw v]) = received past := by
  unfold received
  rw [List.filterMap_append]
  exact List.append_nil _

@[simp] theorem received_snoc_received :
    received (past ++ [.received raw v]) = received past ++ [raw] := by
  unfold received
  rw [List.filterMap_append]
  rfl

end Snoc

theorem nodup_snoc {l : List UInt32} {raw : UInt32} (hl : l.Nodup) (hr : raw ∉ l) :
    (l ++ [raw]).Nodup := by
  refine List.nodup_append.2 ⟨hl, List.nodup_singleton raw, ?_⟩
  intro a ha b hb e
  rw [List.mem_singleton.1 hb] at e
  exact hr (e ▸ ha)

/-- Every received value is the one that its handle held just then. -/
def Faithful (past : List (Move α)) : Prop :=
  ∀ before raw v after, past = before ++ .received raw v :: after → held before raw = some v

theorem Faithful.snoc {past : List (Move α)} (f : Faithful past) {m : Move α}
    (hm : ∀ raw v, m = .received raw v → held past raw = some v) : Faithful (past ++ [m]) := by
  intro before raw v after e
  rcases List.eq_nil_or_concat after with rfl | ⟨after', m', rfl⟩
  · obtain ⟨rfl, hl⟩ := List.append_inj' e rfl
    exact hm raw v (List.singleton_inj.1 hl)
  · rw [List.concat_eq_append, ← List.cons_append, ← List.append_assoc] at e
    exact f before raw v after' (List.append_inj' e rfl).1

/-- A past in which every handle is registered once and received at most once, as what it holds.
-/
structure Orderly (past : List (Move α)) : Prop where
  registered_nodup : (registered past).Nodup
  received_nodup : (received past).Nodup
  registered_of_received : ∀ raw ∈ received past, raw ∈ registered past
  held_iff : ∀ raw, (held past raw).isSome ↔ raw ∈ registered past ∧ raw ∉ received past
  faithful : Faithful past

namespace Orderly

variable {past : List (Move α)} {raw : UInt32} {v w : α}

theorem nil : Orderly ([] : List (Move α)) where
  registered_nodup := List.nodup_nil
  received_nodup := List.nodup_nil
  registered_of_received raw hm := nomatch hm
  held_iff raw := by
    constructor
    · exact fun hs => nomatch hs
    · exact fun hm => nomatch hm.1
  faithful before raw v after e := by
    rcases List.append_eq_nil_iff.1 e.symm with ⟨-, hn⟩
    cases hn

theorem after_registered (o : Orderly past) (hn : raw ∉ registered past) :
    Orderly (past ++ [.registered raw v]) where
  registered_nodup := by
    rw [registered_snoc_registered]
    exact nodup_snoc o.registered_nodup hn
  received_nodup := by
    rw [received_snoc_registered]
    exact o.received_nodup
  registered_of_received x hx := by
    rw [received_snoc_registered] at hx
    rw [registered_snoc_registered]
    exact List.mem_append_left _ (o.registered_of_received x hx)
  held_iff x := by
    rw [registered_snoc_registered, received_snoc_registered, held_snoc, Move.apply,
      List.mem_append, List.mem_singleton]
    by_cases hx : x = raw
    · rw [hx, Function.update_self]
      exact ⟨fun _ => ⟨Or.inr rfl, fun hm => hn (o.registered_of_received _ hm)⟩, fun _ => rfl⟩
    · rw [Function.update_of_ne hx, o.held_iff, or_iff_left hx]
  faithful := o.faithful.snoc fun _ _ e => nomatch e

theorem after_changed (o : Orderly past) (hv : held past raw = some v) :
    Orderly (past ++ [.changed raw w]) where
  registered_nodup := by
    rw [registered_snoc_changed]
    exact o.registered_nodup
  received_nodup := by
    rw [received_snoc_changed]
    exact o.received_nodup
  registered_of_received x hx := by
    rw [received_snoc_changed] at hx
    rw [registered_snoc_changed]
    exact o.registered_of_received x hx
  held_iff x := by
    rw [registered_snoc_changed, received_snoc_changed, held_snoc, Move.apply, ← o.held_iff]
    by_cases hx : x = raw
    · rw [hx, Function.update_self, hv]
      rfl
    · rw [Function.update_of_ne hx]
  faithful := o.faithful.snoc fun _ _ e => nomatch e

theorem after_received (o : Orderly past) (hv : held past raw = some v) :
    Orderly (past ++ [.received raw v]) := by
  have hr := (o.held_iff raw).1 (by rw [hv]; rfl)
  refine ⟨?_, ?_, fun x hx => ?_, fun x => ?_, ?_⟩
  · rw [registered_snoc_received]
    exact o.registered_nodup
  · rw [received_snoc_received]
    exact nodup_snoc o.received_nodup hr.2
  · rw [received_snoc_received] at hx
    rw [registered_snoc_received]
    rcases List.mem_append.1 hx with hx | hx
    · exact o.registered_of_received x hx
    · rw [List.mem_singleton.1 hx]
      exact hr.1
  · rw [registered_snoc_received, received_snoc_received, held_snoc, Move.apply, List.mem_append,
      List.mem_singleton]
    by_cases hx : x = raw
    · rw [hx, Function.update_self]
      exact ⟨fun hs => absurd hs Bool.false_ne_true, fun hm => absurd (Or.inr rfl) hm.2⟩
    · rw [Function.update_of_ne hx, o.held_iff, or_iff_left hx]
  · refine o.faithful.snoc fun x u e => ?_
    cases e
    exact hv

end Orderly

end Past

namespace Store

variable {α : Type} {s t : Store α} {h : Handle} {v w : α} {raw : UInt32}
  {past : List (Move α)}

/-- The store holds what its past tells, and the past used no handle twice. -/
structure Ledger (past : List (Move α)) (s : Store α) : Prop where
  wellFormed : s.WellFormed
  orderly : Orderly past
  lookup_eq : ∀ raw, s.contents.lookup raw = held past raw
  /-- The places have gone past the handles that they registered. -/
  passed : ∀ raw ∈ registered past,
    ∃ h : Handle, h.raw = raw ∧ 2 * h.generation + 1 ≤ s.age h.slot
  count : s.live + (received past).length = (registered past).length

theorem ledger_empty (limit : StoreLimit) (slotBytes : Nat) :
    Ledger [] (empty limit slotBytes : Store α) where
  wellFormed := wellFormed_empty limit slotBytes
  orderly := .nil
  lookup_eq raw := by
    rw [contents_empty, Finmap.lookup_empty]
    rfl
  passed raw hm := nomatch hm
  count := rfl

theorem Ledger.setLimit (l : Ledger past s) (limit : StoreLimit) :
    Ledger past (s.setLimit limit) :=
  ⟨l.wellFormed.setLimit limit, l.orderly, l.lookup_eq, l.passed, l.count⟩

theorem Ledger.passed_of_older (l : Ledger past s) (ho : s.Older t) (hm : raw ∈ registered past) :
    ∃ h : Handle, h.raw = raw ∧ 2 * h.generation + 1 ≤ t.age h.slot := by
  obtain ⟨h, rfl, ha⟩ := l.passed raw hm
  exact ⟨h, rfl, Nat.le_trans ha (ho h.slot)⟩

/-- A handle that is issued was never registered before. -/
theorem Ledger.not_mem_registered (l : Ledger past s) (e : s.Issues h v t) :
    h.raw ∉ registered past := by
  intro hm
  obtain ⟨h', hr, ha⟩ := l.passed _ hm
  obtain rfl := Handle.raw_inj.1 hr
  rw [e.age_before] at ha
  omega

theorem Ledger.held_of_occupied (l : Ledger past s)
    (ho : s.slots[h.slot]? = some ⟨h.generation, some v⟩) : held past h.raw = some v := by
  rw [← l.lookup_eq]
  exact lookup_contents_raw.2 ho

theorem lookup_insert_eq_update {m : Finmap fun _ : UInt32 => α} {f : UInt32 → Option α}
    (hf : ∀ x, m.lookup x = f x) (raw : UInt32) (v : α) (x : UInt32) :
    (m.insert raw v).lookup x = Function.update f raw (some v) x := by
  by_cases hx : x = raw
  · rw [hx, Finmap.lookup_insert, Function.update_self]
  · rw [Finmap.lookup_insert_of_ne _ hx, Function.update_of_ne hx, hf]

theorem Ledger.of_issues (l : Ledger past s) (e : s.Issues h v t) :
    Ledger (past ++ [.registered h.raw v]) t where
  wellFormed := l.wellFormed.of_issues e
  orderly := l.orderly.after_registered (l.not_mem_registered e)
  lookup_eq raw := by
    rw [contents_of_issues e, held_snoc]
    exact lookup_insert_eq_update l.lookup_eq h.raw v raw
  passed raw hm := by
    rw [registered_snoc_registered] at hm
    rcases List.mem_append.1 hm with hm | hm
    · exact l.passed_of_older e.older hm
    · exact ⟨h, (List.mem_singleton.1 hm).symm, Nat.le_of_eq e.age_after.symm⟩
  count := by
    have hc := l.count
    rw [registered_snoc_registered, received_snoc_registered, e.live_eq, List.length_append,
      List.length_singleton]
    omega

theorem Ledger.of_changes (l : Ledger past s) (e : s.Changes h v w t) :
    Ledger (past ++ [.changed h.raw w]) t where
  wellFormed := l.wellFormed.of_changes e
  orderly := l.orderly.after_changed (l.held_of_occupied e.occupied)
  lookup_eq raw := by
    rw [contents_of_changes e, held_snoc]
    exact lookup_insert_eq_update l.lookup_eq h.raw w raw
  passed raw hm := by
    rw [registered_snoc_changed] at hm
    exact l.passed_of_older (fun i => Nat.le_of_eq e.age_eq.symm) hm
  count := by
    rw [registered_snoc_changed, received_snoc_changed, e.live_eq]
    exact l.count

theorem Ledger.of_ends (l : Ledger past s) (e : s.Ends h v t) :
    Ledger (past ++ [.received h.raw v]) t where
  wellFormed := l.wellFormed.of_ends e
  orderly := l.orderly.after_received (l.held_of_occupied e.occupied)
  lookup_eq raw := by
    rw [contents_of_ends e, held_snoc, Move.apply]
    by_cases hr : raw = h.raw
    · rw [hr, Finmap.lookup_erase, Function.update_self]
    · rw [Finmap.lookup_erase_ne hr, Function.update_of_ne hr, l.lookup_eq]
  passed raw hm := by
    rw [registered_snoc_received] at hm
    exact l.passed_of_older (e.older l.wellFormed) hm
  count := by
    have hc := l.count
    have hl := l.wellFormed.live_pos e.occupied
    rw [registered_snoc_received, received_snoc_received, e.live_eq, List.length_append,
      List.length_singleton]
    omega

/-! ## Trails -/

/-- Steps from one store to another, with the moves on the way. -/
inductive Trail : Store α → List (Move α) → Store α → Prop where
  | rest (s : Store α) : Trail s [] s
  | onward {s t u : Store α} {ms ms' : List (Move α)} (first : Trail s ms t)
      (next : Trail t ms' u) : Trail s (ms ++ ms') u
  | limited (s : Store α) (limit : StoreLimit) : Trail s [] (s.setLimit limit)
  | issued {s t : Store α} {h : Handle} {v : α} (e : s.Issues h v t) :
      Trail s [.registered h.raw v] t
  | changed {s t : Store α} {h : Handle} {v w : α} (e : s.Changes h v w t) :
      Trail s [.changed h.raw w] t
  | ended {s t : Store α} {h : Handle} {v : α} (e : s.Ends h v t) :
      Trail s [.received h.raw v] t

namespace Trail

variable {ms : List (Move α)}

theorem wellFormed (c : Trail s ms t) (hs : s.WellFormed) : t.WellFormed := by
  induction c with
  | rest s => exact hs
  | onward first next ih₁ ih₂ => exact ih₂ (ih₁ hs)
  | limited s limit => exact hs.setLimit limit
  | issued e => exact hs.of_issues e
  | changed e => exact hs.of_changes e
  | ended e => exact hs.of_ends e

theorem older (c : Trail s ms t) (hs : s.WellFormed) : s.Older t := by
  induction c with
  | rest s => exact Older.refl s
  | onward first next ih₁ ih₂ => exact (ih₁ hs).trans (ih₂ (first.wellFormed hs))
  | limited s limit => exact Older.refl s
  | issued e => exact e.older
  | changed e => exact fun i => Nat.le_of_eq e.age_eq.symm
  | ended e => exact e.older hs

/-- The ledger is kept along a trail. -/
theorem ledger (c : Trail s ms t) (l : Ledger past s) : Ledger (past ++ ms) t := by
  induction c generalizing past with
  | rest s =>
    rw [List.append_nil]
    exact l
  | onward first next ih₁ ih₂ =>
    rw [← List.append_assoc]
    exact ih₂ (ih₁ l)
  | limited s limit =>
    rw [List.append_nil]
    exact l.setLimit limit
  | issued e => exact l.of_issues e
  | changed e => exact l.of_changes e
  | ended e => exact l.of_ends e

end Trail

end Store

end HandleBridge
