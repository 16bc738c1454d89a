import HandleBridge.Proofs.Export.Ownership

/-
  Instances that find no place.

  A creation that fails ends the instance that it made. The store of its type is still on loan
  then: the instance was given to the store, and goes down with the attempt. So what it does at
  its end is turned away where it concerns its own type, and what it owned of that type stays. An
  instance that makes no call on its own type at its end cannot tell, and ends as it would from
  outside. A method that takes its instance has no such trouble, because it runs after the store
  is released.

  Proved:
  * `Cells.ext`, `World.eq_of_agree`: a world is its heap, its stores and their marks.
  * `register_of_refused`: a failed registration costs a request for memory and nothing else.
  * `rejected_instance_ends_on_loan`: how an instance ends that found no place.
-/

namespace HandleBridge

/-! ## Equal worlds -/

theorem Cells.ext : {n : Nat} → {V : Fin n → Type} → {cs ds : Cells n V} →
    (∀ k, cs.get k = ds.get k) → cs = ds
  | 0, _, (), (), _ => rfl
  | n + 1, _, (_, _), (_, _), h =>
    Prod.ext (h ⟨0, Nat.zero_lt_succ n⟩)
      (ext fun k => h ⟨k + 1, Nat.succ_lt_succ k.isLt⟩)

variable {M : Catalog} {α : Type} {j k : Fin M.count} {w w₁ w₂ : World M}

theorem World.eq_of_agree (a : Script.Agree (fun _ => True) w₁ w₂) : w₁ = w₂ := by
  have hc : w₁.cells = w₂.cells := by
    refine Cells.ext fun k => ?_
    have hs : (w₂.cell k).store = (w₁.cell k).store := a.store_eq k
    have hb : (w₂.cell k).borrowed = (w₁.cell k).borrowed := a.isBorrowed_eq k trivial
    show w₁.cell k = w₂.cell k
    cases h₁ : w₁.cell k
    cases h₂ : w₂.cell k
    rw [h₁, h₂] at hs hb
    cases hs
    cases hb
    rfl
  cases w₁
  cases w₂
  cases hc
  cases a.heap_eq
  rfl

namespace Script

open World

/-! ## A failed registration -/

theorem register_of_refused {v : M.Value k} {cause : Fault} (hi : w.Idle) (hw : w.WellFormed)
    (he : (w.register k v).result = .error cause) :
    w.register k v = .failed cause w.ticked [] := by
  have hr := register_of_free (v := v) (hi k)
  rw [insert_eq] at hr
  rw [hr] at he ⊢
  rw [Store.insert_error (hw k) he]
  show Step.mk _ (w.ticked.withStore k (w.ticked.store k)) _ = _
  rw [withStore_store]
  rfl

/-! ## The mark of the loan -/

theorem agree_setBorrowed (w : World M) (k : Fin M.count) (b : Bool) :
    Agree (· ≠ k) w (w.setBorrowed k b) where
  heap_eq := rfl
  store_eq := store_setBorrowed w b
  isBorrowed_eq _ hj := isBorrowed_setBorrowed_other w hj

/-- Where the worlds differ in one mark at most, setting that mark makes them equal. -/
theorem Agree.setBorrowed_eq {b : Bool} (a : Agree (· ≠ k) w₁ w₂) (hb : w₁.isBorrowed k = b) :
    w₂.setBorrowed k b = w₁ := by
  have e : Agree (fun _ => True) w₁ (w₂.setBorrowed k b) := by
    refine ⟨a.heap_eq, fun j => ?_, fun j _ => ?_⟩
    · rw [store_setBorrowed, a.store_eq]
    · by_cases hj : j = k
      · subst hj
        rw [isBorrowed_setBorrowed_same, hb]
      · rw [isBorrowed_setBorrowed_other _ hj, a.isBorrowed_eq j hj]
  exact (World.eq_of_agree e).symm

/-! ## The end of an instance without a place -/

section

variable {make : Script M (M.Value k)} {drop : M.Value k → Script M Unit}
  {made : Outcome M (M.Value k)} {cause : Fault}

/-- What a failed creation answers, when its instance has come to its end. -/
def refusal (made : Outcome M (M.Value k)) (cause : Fault) (ended : Outcome M Unit) :
    Outcome M UInt32 :=
  ⟨invalidHandle, ended.world, made.events ++ ended.events ++ [.creationFailed (M.name k) cause]⟩

theorem run_create_refused (hi : made.world.Idle) (hw : made.world.WellFormed)
    (hm : run make w = .ok made) (he : (made.world.register k made.value).result = .error cause) :
    run (create k make drop) w =
      (run (drop made.value) (made.world.ticked.setBorrowed k true)).map fun ended =>
        refusal made cause { ended with world := ended.world.setBorrowed k false } := by
  rw [run_create_eq, hm]
  dsimp only
  rw [register_of_refused hi hw he, hi k]
  dsimp only [Step.failed]
  rw [List.append_nil]
  cases run (drop made.value) (made.world.ticked.setBorrowed k true) with
  | error a => rfl
  | ok ended => rfl

/-- How an instance `made` for a creation on `w` ends, when its registration failed by `cause`. -/
structure EndsOnLoan (k : Fin M.count) (make : Script M (M.Value k))
    (drop : M.Value k → Script M Unit) (w : World M) (made : Outcome M (M.Value k))
    (cause : Fault) : Prop where
  cause_eq : cause = (made.world.store k).exhausted ∨
    cause = .outOfMemory (made.world.store k).slotBytes
  /-- It ends while the store is on loan, before the creation answers. -/
  run_eq : run (create k make drop) w =
    (run (drop made.value) (made.world.ticked.setBorrowed k true)).map fun ended =>
      refusal made cause { ended with world := ended.world.setBorrowed k false }
  /-- Whatever it calls, calls on its own type are turned away, however deep inside. -/
  turnedAway : ∀ {β : Type} {used : List (Fin M.count)} {s : Script M β} {w' : World M},
    Within (drop made.value) (made.world.ticked.setBorrowed k true) used s w' → TurnedAway k w'
  /-- No instance of its type is made, changed or ended by it. -/
  kept : ∀ {o : Outcome M UInt32}, run (create k make drop) w = .ok o →
    o.value = invalidHandle ∧ o.world.store k = made.world.store k
  /-- If it calls on other types only, it ends as it would from outside. -/
  elsewhere : (drop made.value).CallsOn (· ≠ k) → run (create k make drop) w =
    (run (drop made.value) made.world.ticked).map (refusal made cause)

theorem kept_of_refused (hi : made.world.Idle) (hw : made.world.WellFormed)
    (hm : run make w = .ok made) (he : (made.world.register k made.value).result = .error cause)
    {o : Outcome M UInt32} (hr : run (create k make drop) w = .ok o) :
    o.value = invalidHandle ∧ o.world.store k = made.world.store k := by
  rw [run_create_refused hi hw hm he] at hr
  cases hd : run (drop made.value) (made.world.ticked.setBorrowed k true) with
  | error a =>
    rw [hd] at hr
    cases hr
  | ok ended =>
    rw [hd] at hr
    cases hr
    have hs := (course_of_run _ _ hd).store_of_borrowed (isBorrowed_setBorrowed_same _ k true)
    refine ⟨rfl, ?_⟩
    show (ended.world.setBorrowed k false).store k = _
    rw [store_setBorrowed, hs, store_setBorrowed, store_ticked]

theorem run_create_refused_elsewhere (hi : made.world.Idle) (hw : made.world.WellFormed)
    (hm : run make w = .ok made) (he : (made.world.register k made.value).result = .error cause)
    (hd : (drop made.value).CallsOn (· ≠ k)) : run (create k make drop) w =
      (run (drop made.value) made.world.ticked).map (refusal made cause) := by
  rw [run_create_refused hi hw hm he]
  have hn := matched_of_agree hd (agree_setBorrowed made.world.ticked k true)
  cases h₁ : run (drop made.value) made.world.ticked with
  | error a =>
    rw [h₁] at hn
    generalize run (drop made.value) (made.world.ticked.setBorrowed k true) = r at hn ⊢
    cases hn
    rfl
  | ok ended =>
    have hb : ended.world.isBorrowed k = false := (isBorrowed_of_run h₁ k).trans (hi k)
    rw [h₁] at hn
    generalize run (drop made.value) (made.world.ticked.setBorrowed k true) = r at hn ⊢
    cases hn with
    | ok a =>
      show Except.ok _ = Except.ok _
      congr 1
      show refusal made cause ⟨_, _, _⟩ = _
      rw [a.setBorrowed_eq hb]

/-- An instance that finds no place ends while the store of its type is on loan. -/
theorem rejected_instance_ends_on_loan {heap : Heap} {past : Moves M} (h : Session heap past w)
    (hm : run make w = .ok made) (he : (made.world.register k made.value).result = .error cause) :
    EndsOnLoan k make drop w made cause := by
  have hi : made.world.Idle := idle_of_run hm h.idle
  have hw : made.world.WellFormed := (course_of_run _ _ hm).wellFormed h.wellFormed
  constructor
  · have hr := register_of_free (v := made.value) (hi k)
    rw [hr, insert_eq] at he
    exact cause_of_insert_error he
  · exact run_create_refused hi hw hm he
  · intro β used s w' p
    refine turnedAway_of_borrowed ((p.isBorrowed_iff k).2 (Or.inl ?_))
    exact isBorrowed_setBorrowed_same _ k true
  · exact kept_of_refused hi hw hm he
  · exact run_create_refused_elsewhere hi hw hm he

end

/-! ## A node that ends with its child -/

open Sample

theorem plain_destroyChain {P : Fin catalog.count → Prop} (hP : P nodeType) (d : Nat)
    (raw : UInt32) : (Node.destroyChain d raw).Plain P := by
  induction d generalizing raw with
  | zero => trivial
  | succ d ih =>
    unfold Node.destroyChain
    split
    · trivial
    · exact ⟨hP, fun n => ⟨ih _, fun _ => trivial⟩⟩

theorem plain_destroy {P : Fin catalog.count → Prop} (hP : P nodeType) (raw : UInt32) :
    (Node.destroy raw).Plain P :=
  ⟨hP, fun _ => ⟨plain_destroyChain hP _ _, fun _ => trivial⟩⟩

/-- A node above a child of its own. -/
def makeOwner : Script catalog (catalog.Value nodeType) :=
  .after (Node.create 0) fun child => .done (⟨1, child⟩ : Node)

/-- At its end it ends its child. -/
def dropOwner (n : Node) : Script catalog Unit := Node.destroy n.child

/-- A module with room for one node. -/
def oneNodeOnly : World catalog :=
  (World.empty catalog (Heap.capped 8388608)).configure nodeType (.atMost 1)

theorem session_oneNodeOnly : ∃ past, Session (Heap.capped 8388608) past oneNodeOnly := by
  have hr : run (configure nodeType (.atMost 1)) (World.empty catalog (Heap.capped 8388608)) =
      .ok ⟨(), oneNodeOnly, []⟩ := rfl
  exact ⟨_, .call .start hr⟩

/-- The owner finds no place, since its child has the only one. -/
theorem exists_rejected_owner : ∃ made cause, run makeOwner oneNodeOnly = .ok made ∧
    made.value = (⟨1, 1⟩ : Node) ∧
      (made.world.register nodeType made.value).result = .error cause ∧
        (made.world.store nodeType).contains 1 = true :=
  ⟨_, _, rfl, rfl, rfl, rfl⟩

theorem exists_run_rejected_owner :
    ∃ o, run (create nodeType makeOwner dropOwner) oneNodeOnly = .ok o := by
  obtain ⟨past, h⟩ := session_oneNodeOnly
  refine exists_run_of_guarded ⟨⟨⟨trivial, fun _ => trivial⟩, fun _ => trivial⟩, fun n => ?_⟩ h.idle
  exact plain_destroy trivial _

/-- The child outlives the owner that found no place. -/
theorem child_outlives_rejected_owner :
    ∃ o, run (create nodeType makeOwner dropOwner) oneNodeOnly = .ok o ∧ o.value = invalidHandle ∧
      (o.world.store nodeType).contains 1 = true := by
  obtain ⟨past, h⟩ := session_oneNodeOnly
  obtain ⟨made, cause, hm, -, he, hl⟩ := exists_rejected_owner
  have e : EndsOnLoan nodeType makeOwner dropOwner oneNodeOnly made cause :=
    rejected_instance_ends_on_loan h hm he
  obtain ⟨o, ho⟩ := exists_run_rejected_owner
  obtain ⟨hv, hs⟩ := e.kept ho
  refine ⟨o, ho, hv, ?_⟩
  rw [hs]
  exact hl

/-- Not every instance without a place ends as it would from outside: there the child of the
owner ends with it. -/
theorem rejected_owner_not_served :
    ¬ ∀ (w : World catalog) (make : Script catalog (catalog.Value nodeType))
      (drop : catalog.Value nodeType → Script catalog Unit) (made : Outcome catalog _)
      (cause : Fault) (o : Outcome catalog UInt32) (ended : Outcome catalog Unit), w.Idle →
        run make w = .ok made →
          (made.world.register nodeType made.value).result = .error cause →
            run (create nodeType make drop) w = .ok o →
              run (drop made.value) made.world.ticked = .ok ended →
                ∀ raw, (o.world.store nodeType).contains raw =
                  (ended.world.store nodeType).contains raw := by
  intro served
  obtain ⟨past, h⟩ := session_oneNodeOnly
  obtain ⟨made, cause, hm, hv, he, hl⟩ := exists_rejected_owner
  have hi : made.world.Idle := idle_of_run hm h.idle
  have hw : made.world.WellFormed := (course_of_run _ _ hm).wellFormed h.wellFormed
  obtain ⟨o, ho⟩ := exists_run_rejected_owner
  obtain ⟨ended, hd⟩ := exists_run_of_plain (P := fun _ => True)
    (plain_destroy trivial (show Node from made.value).child) made.world.ticked
  have kept : (o.world.store nodeType).contains 1 = true := by
    rw [(kept_of_refused hi hw hm he ho).2]
    exact hl
  have ends : (ended.world.store nodeType).contains 1 = false := by
    have ht : made.world.ticked.WellFormed := hw
    rw [hv] at hd
    have hd : run (take nodeType .destroy 1 () _) made.world.ticked = .ok ended := hd
    exact dead_of_take ht (hi nodeType) hd
  have same := served _ _ _ _ _ _ _ h.idle hm he ho hd 1
  rw [kept, ends] at same
  cases same

end Script

end HandleBridge
