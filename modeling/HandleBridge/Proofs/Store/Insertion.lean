import HandleBridge.Proofs.Store.Runs

/-
  When an insertion fails, and that a failure costs nothing.

  A store that has room under its limit takes the place on top of the free list, or a new place
  if that list is empty. So it fails for three causes only: the limit is reached, there is no
  place left that could ever be used (`Exhausted`), or the table would have to grow and may not
  (`Starved`). A place is `Recyclable` if it is vacant and not retired. The generation of a vacant
  place does not tell whether it is retired, as the last one may still be to come, so that is read
  off the free list; the counters of live and retired instances agree with it.

  Proved:
  * `WellFormed.recyclable_iff`, `WellFormed.exhausted_iff`: how this shows in the free list.
  * `WellFormed.insert_exhausted_iff`, `WellFormed.insert_starved_iff`, `WellFormed.insert_ok_iff`:
    the exact condition for each answer.
  * `Ends.insert_again`: a place that was just vacated is taken next.
  * `insert_fails_only_without_room`: all of it, after every run.
-/

namespace HandleBridge.Store

variable {α : Type} {s t : Store α} {i : Nat} {h : Handle} {v w : α} {heap : Allocator}

/-! ## Places that may be taken again -/

/-- A vacant place that is not retired. -/
def Recyclable (s : Store α) (i : Nat) : Prop :=
  (∃ g, s.slots[i]? = some ⟨g, none⟩) ∧ i ∉ s.retiredSlots

/-- As many instances live as may, or all places there can be are live or retired. -/
def Exhausted (s : Store α) : Prop :=
  s.limit.max ≤ s.live ∨
    s.live < s.limit.max ∧ (∀ i, ¬ s.Recyclable i) ∧ s.live + s.retired = maxSlots

/-- Another instance may live and needs a new place, but the allocator refuses to let the slot
table grow. -/
def Starved (heap : Allocator) (s : Store α) : Prop :=
  s.live < s.limit.max ∧ (∀ i, ¬ s.Recyclable i) ∧ s.capacity < maxSlots ∧
    s.mayGrow heap = false

theorem WellFormed.recyclable_iff (hs : s.WellFormed) : s.Recyclable i ↔ i ∈ s.free := by
  unfold Recyclable
  rw [mem_retiredSlots]
  constructor
  · rintro ⟨hv, hr⟩
    by_contra hf
    exact hr ⟨hf, hv⟩
  · exact fun hf => ⟨hs.vacant_of_free hf, fun hr => hr.1 hf⟩

theorem WellFormed.none_recyclable_iff (hs : s.WellFormed) :
    (∀ i, ¬ s.Recyclable i) ↔ s.free = [] := by
  rw [List.eq_nil_iff_forall_not_mem]
  exact forall_congr' fun i => not_congr hs.recyclable_iff

/-- Without a free place, live and retired ones make up the whole table. -/
theorem WellFormed.exhausted_iff (hs : s.WellFormed) :
    s.Exhausted ↔ s.limit.max ≤ s.live ∨
      s.live < s.limit.max ∧ s.free = [] ∧ s.capacity = maxSlots := by
  have ht := hs.total_eq
  unfold Exhausted
  rw [hs.none_recyclable_iff]
  refine or_congr_right (and_congr_right fun _ => and_congr_right fun hf => ?_)
  rw [hf, List.length_nil] at ht
  omega

theorem WellFormed.starved_iff (hs : s.WellFormed) :
    s.Starved heap ↔ s.live < s.limit.max ∧ s.free = [] ∧ s.capacity < maxSlots ∧
      s.mayGrow heap = false := by
  unfold Starved
  rw [hs.none_recyclable_iff]

/-! ## The answer of an insertion -/

theorem new?_capacity_of_full (hc : s.capacity = maxSlots) : Handle.new? s.slots.size 0 = none := by
  unfold Handle.new?
  exact dif_neg fun hb => Nat.lt_irrefl _ (hc ▸ hb.1)

theorem new?_capacity_of_lt (hc : s.capacity < maxSlots) :
    Handle.new? s.slots.size 0 = some ⟨s.capacity, 0, hc, Nat.zero_le _⟩ :=
  Handle.new?_eq_some_iff.2 ⟨rfl, rfl⟩

theorem insert_of_exhausted (hs : s.WellFormed) (he : s.Exhausted) :
    s.insert heap v = .failed (.capacityExhausted s.limit.max) s [] := by
  rcases hs.exhausted_iff.1 he with hl | ⟨hl, hf, hc⟩
  · exact insert_of_full hl
  · unfold insert
    rw [if_neg (Nat.not_le.2 hl), hf]
    simp only [new?_capacity_of_full hc]
    rfl

theorem insert_of_starved (hs : s.WellFormed) (he : s.Starved heap) :
    s.insert heap v = .failed (.outOfMemory s.slotBytes) s [] := by
  obtain ⟨hl, hf, hc, hm⟩ := hs.starved_iff.1 he
  unfold insert
  rw [if_neg (Nat.not_le.2 hl), hf]
  simp only [new?_capacity_of_lt hc, hm, Bool.false_eq_true, if_false]

theorem insert_of_room (hs : s.WellFormed) (he : ¬ s.Exhausted) (hg : ¬ s.Starved heap) :
    ∃ h, (s.insert heap v).result = .ok h := by
  rw [hs.exhausted_iff, not_or, Nat.not_le] at he
  obtain ⟨hl, he⟩ := he
  cases hf : s.free with
  | cons i rest =>
    have hi : ∃ h, (s.insert heap v).result = .ok h ∧ s.Issues h v (s.insert heap v).state :=
      insert_of_free hs (Nat.not_le.2 hl) hf
    exact ⟨hi.choose, hi.choose_spec.1⟩
  | nil =>
    have hc : s.capacity < maxSlots :=
      Nat.lt_of_le_of_ne hs.capacity_le fun hc => he ⟨hl, hf, hc⟩
    have hm : s.mayGrow heap = true := by
      by_contra hm
      exact hg (hs.starved_iff.2 ⟨hl, hf, hc, Bool.eq_false_of_not_eq_true hm⟩)
    unfold insert
    rw [if_neg (Nat.not_le.2 hl), hf]
    simp only [new?_capacity_of_lt hc, hm, if_true]
    exact ⟨_, rfl⟩

/-- A store that has no places left does not ask for memory. -/
theorem WellFormed.insert_exhausted_iff (hs : s.WellFormed) :
    (s.insert heap v).result = .error (.capacityExhausted s.limit.max) ↔ s.Exhausted := by
  constructor
  · intro hr
    by_contra he
    by_cases hg : s.Starved heap
    · rw [insert_of_starved hs hg] at hr
      cases hr
    · obtain ⟨h, hk⟩ := insert_of_room (v := v) hs he hg
      rw [hk] at hr
      cases hr
  · intro he
    rw [insert_of_exhausted hs he]
    rfl

theorem WellFormed.insert_starved_iff (hs : s.WellFormed) :
    (s.insert heap v).result = .error (.outOfMemory s.slotBytes) ↔ s.Starved heap := by
  constructor
  · intro hr
    by_contra hg
    by_cases he : s.Exhausted
    · rw [insert_of_exhausted hs he] at hr
      cases hr
    · obtain ⟨h, hk⟩ := insert_of_room (v := v) hs he hg
      rw [hk] at hr
      cases hr
  · intro hg
    rw [insert_of_starved hs hg]
    rfl

theorem WellFormed.insert_ok_iff (hs : s.WellFormed) :
    (∃ h, (s.insert heap v).result = .ok h) ↔ ¬ s.Exhausted ∧ ¬ s.Starved heap := by
  constructor
  · rintro ⟨h, hr⟩
    refine ⟨fun he => ?_, fun hg => ?_⟩
    · rw [insert_of_exhausted hs he] at hr
      cases hr
    · rw [insert_of_starved hs hg] at hr
      cases hr
  · exact fun ⟨he, hg⟩ => insert_of_room hs he hg

/-! ## After a failure -/

/-- A place that can be used again is on top when its instance has left, so the next insertion
takes it, whatever the allocator says. -/
theorem Ends.insert_again (hs : s.WellFormed) (e : s.Ends h w t) (hg : h.generation < maxGeneration)
    (limit : StoreLimit) (hl : t.live < limit.max) (heap : Allocator) (v : α) :
    ∃ k, ((t.setLimit limit).insert heap v).result = .ok k ∧ k.slot = h.slot ∧
      k.generation = h.generation + 1 := by
  rcases e.vacated with ⟨hm, -⟩ | ⟨-, hp, hf, -⟩
  · omega
  have hw : (t.setLimit limit).WellFormed := (hs.of_ends e).setLimit limit
  have he : ∃ k, ((t.setLimit limit).insert heap v).result = .ok k ∧
      (t.setLimit limit).Issues k v ((t.setLimit limit).insert heap v).state :=
    insert_of_free hw (Nat.not_le.2 hl) hf
  obtain ⟨k, hr, hi⟩ := he
  refine ⟨k, hr, ?_⟩
  rcases hi.chosen with ⟨hv, hk, -⟩ | ⟨hk, -⟩
  · have hks : k.slot = h.slot := by
      have hc : h.slot :: s.free = k.slot :: _ := hf.symm.trans hk
      exact (List.cons.inj hc).1.symm
    have hv' : t.slots[k.slot]? = some ⟨k.generation, none⟩ := hv
    rw [hks, hp.same] at hv'
    simp only [Option.some.injEq, Slot.mk.injEq, and_true] at hv'
    exact ⟨hks, hv'.symm⟩
  · have hn : h.slot :: s.free = [] := hf.symm.trans hk
    cases hn

/-- After every run an insertion fails exactly when there is no room, and says which room it was;
the store is then as before. A failure has no lasting effect either: at any time after it, the
place of an instance that leaves, if it has a generation left, is taken by the next insertion
that the limit of that time allows. -/
theorem insert_fails_only_without_room (limit : StoreLimit) (slotBytes : Nat) (ops : List (Op α))
    (heap : Allocator) (v : α) :
    let s := run ops (empty limit slotBytes)
    let step := s.insert heap v
    (step.result = .error (.capacityExhausted s.limit.max) ↔ s.Exhausted) ∧
      (step.result = .error (.outOfMemory s.slotBytes) ↔ s.Starved heap) ∧
      ((∃ h, step.result = .ok h) ↔ ¬ s.Exhausted ∧ ¬ s.Starved heap) ∧
      ∀ cause, step.result = .error cause → step.state = s ∧
        ∀ (later : List (Op α)) (raw : UInt32) (h : Handle) (w : α),
          (run later step.state).lookup raw = some (h, w) → h.generation < maxGeneration →
          let left := ((run later step.state).remove raw).state
          ∀ limit : StoreLimit, left.live < limit.max → ∀ (heap : Allocator) (v : α),
            ∃ k, ((left.setLimit limit).insert heap v).result = .ok k ∧ k.slot = h.slot ∧
              k.generation = h.generation + 1 := by
  intro s step
  have hs : s.WellFormed := wellFormed_run limit slotBytes ops
  refine ⟨hs.insert_exhausted_iff, hs.insert_starved_iff, hs.insert_ok_iff, fun cause hr => ?_⟩
  have he : step = .failed cause s [] := insert_error hs hr
  have hf : step.state.WellFormed := hs.after_insert heap v
  refine ⟨congrArg Step.state he, ?_⟩
  intro later raw h w hl hg left limit hm heap v
  exact (remove_ok hl).2.insert_again (hf.after_run later) hg limit hm heap v

/-- A store for one instance turns the second away and takes it once the first has left, in the
same place. -/
theorem turned_away_then_taken :
    let heap : Allocator := fun _ => some 16
    let s : Store Nat := run [.insert heap 5] (empty (.atMost 1) 32)
    (s.insert heap 6).result = .error (.capacityExhausted 1) ∧
      ∃ k, (((s.insert heap 6).state.remove 1).state.insert heap 6).result = .ok k ∧
        k.slot = 0 ∧ k.generation = 1 := by
  intro heap s
  have hr : (s.insert heap 6).result = .error (.capacityExhausted 1) := by decide +kernel
  have hl : (run [] (s.insert heap 6).state).lookup 1 = some (⟨0, 0, by decide, by decide⟩, 5) := by
    decide +kernel
  exact ⟨hr, ((insert_fails_only_without_room (.atMost 1) 32 [.insert heap 5] heap 6).2.2.2 _ hr).2
    [] 1 _ 5 hl (by decide) (.atMost 1) (by decide +kernel) heap 6⟩

end HandleBridge.Store
