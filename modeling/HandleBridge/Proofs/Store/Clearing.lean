import HandleBridge.Proofs.Store.Counting

/-
  What clearing leaves behind.

  Clearing notes the handles of all live instances and then removes one after another from a store
  that changes all the while. Nothing else moves: after the removals of some of them (`Left`), the
  places of the others are as they were, so the next handle is still good when its turn comes. Each
  removal adds one place to the free list or one to the retired ones, in the order of the places.

  Proved:
  * `Left.of_ends`: what one more removal makes of it.
  * `left_removeAll`: the store after any of the first removals.
  * `clear_ends_every_life`: what clearing does to each place, to the free list and to the counters,
    and that nothing is left for a second one.
-/

namespace HandleBridge.Store

variable {α : Type} {s t u : Store α} {h : Handle} {v : α} {gone : List Handle}

/-! ## Some of the lives have ended -/

/-- `t` is `s` after the instances under `gone` left it, in this order. -/
structure Left (s : Store α) (gone : List Handle) (t : Store α) : Prop where
  capacity_eq : t.capacity = s.capacity
  limit_eq : t.limit = s.limit
  free_eq : t.free =
    ((gone.filter fun h => h.generation < maxGeneration).map Handle.slot).reverse ++ s.free
  retired_eq : t.retired = s.retired + gone.countP fun h => h.generation = maxGeneration
  other : ∀ i, (∀ h ∈ gone, h.slot ≠ i) → t.slots[i]? = s.slots[i]?
  vacated : ∀ h ∈ gone, t.slots[h.slot]? = some
    ⟨if h.generation < maxGeneration then h.generation + 1 else h.generation, none⟩

theorem Left.nil (s : Store α) : s.Left [] s where
  capacity_eq := rfl
  limit_eq := rfl
  free_eq := rfl
  retired_eq := rfl
  other _ _ := rfl
  vacated _ hm := nomatch hm

theorem Left.of_ends (hl : s.Left gone t) (hn : ∀ k ∈ gone, k.slot ≠ h.slot) (e : t.Ends h v u) :
    s.Left (gone ++ [h]) u where
  capacity_eq := e.capacity_eq.trans hl.capacity_eq
  limit_eq := e.limit_eq.trans hl.limit_eq
  free_eq := by
    rw [List.filter_append, List.map_append, List.reverse_append]
    rcases e.vacated with ⟨hg, -, hf, -⟩ | ⟨hg, -, hf, -⟩
    · rw [hf, hl.free_eq]
      simp [hg]
    · have hlt : h.generation < maxGeneration := Nat.lt_of_le_of_ne h.generation_le hg
      rw [hf, hl.free_eq]
      simp [hlt]
  retired_eq := by
    rw [List.countP_append]
    rcases e.vacated with ⟨hg, -, -, hr⟩ | ⟨hg, -, -, hr⟩
    · rw [hr, hl.retired_eq]
      simp [hg, Nat.add_assoc]
    · rw [hr, hl.retired_eq]
      simp [hg]
  other i hi := by
    have hne : h.slot ≠ i := hi h (by simp)
    rw [(e.other (Ne.symm hne)).1]
    exact hl.other i fun k hk => hi k (List.mem_append_left _ hk)
  vacated k hk := by
    rcases List.mem_append.1 hk with hk | hk
    · rw [(e.other (hn k hk)).1]
      exact hl.vacated k hk
    · obtain rfl := List.mem_singleton.1 hk
      rcases e.vacated with ⟨hg, p, -⟩ | ⟨hg, p, -⟩
      · rw [p.same, if_neg (by omega)]
      · rw [p.same, if_pos (Nat.lt_of_le_of_ne k.generation_le hg)]

/-- An instance whose turn has not come is where it was. -/
theorem Left.exists_lookup {rest : List Handle} (hl : s.Left gone t)
    (hh : s.handles = gone ++ h :: rest) :
    (∀ k ∈ gone, k.slot ≠ h.slot) ∧ ∃ v, s.lookup h.raw = some (h, v) ∧
      t.lookup h.raw = some (h, v) := by
  have hp := pairwise_slot_handles s
  rw [hh, List.pairwise_append] at hp
  have hn : ∀ k ∈ gone, k.slot ≠ h.slot := fun k hk =>
    Nat.ne_of_lt (hp.2.2 k hk h List.mem_cons_self)
  obtain ⟨v, hv⟩ := mem_handles.1 (by rw [hh]; simp : h ∈ s.handles)
  refine ⟨hn, v, lookup_raw_eq_some_iff.2 hv, lookup_raw_eq_some_iff.2 ?_⟩
  rw [hl.other h.slot hn]
  exact hv

theorem removeAll_snoc (gone : List Handle) (h : Handle) (s : Store α) :
    (removeAll (gone ++ [h]) s).1 = ((removeAll gone s).1.remove h.raw).state := by
  rw [removeAll_eq_run, removeAll_eq_run, List.map_append, run_append]
  rfl

/-- What the removals so far have made of the store, at any time while it is cleared. -/
theorem left_removeAll (hp : gone <+: s.handles) : s.Left gone (removeAll gone s).1 := by
  induction gone using List.reverseRecOn with
  | nil => exact Left.nil s
  | append_singleton gone h ih =>
    have hl := ih ((List.prefix_append gone [h]).trans hp)
    obtain ⟨rest, hr⟩ := hp
    rw [List.append_assoc] at hr
    obtain ⟨hn, v, -, hv⟩ := hl.exists_lookup hr.symm
    rw [removeAll_snoc]
    exact hl.of_ends hn (remove_ok hv).2

/-! ## The places of the handles -/

theorem generationAt_of_mem_handles (hm : h ∈ s.handles) :
    s.generationAt h.slot = h.generation := by
  obtain ⟨v, hv⟩ := mem_handles.1 hm
  exact generationAt_of_getElem? hv

/-- The occupied places are those of the handles, and so are those of certain generations. -/
theorem WellFormed.mem_slots_filter (hs : s.WellFormed) (p : Nat → Prop) [DecidablePred p]
    (i : Nat) : i ∈ (s.handles.filter fun h => p h.generation).map Handle.slot ↔
      i ∈ s.occupiedSlots ∧ p (s.generationAt i) := by
  simp only [List.mem_map, List.mem_filter, decide_eq_true_eq]
  constructor
  · rintro ⟨h, ⟨hm, hp⟩, rfl⟩
    obtain ⟨v, hv⟩ := mem_handles.1 hm
    rw [generationAt_of_mem_handles hm]
    exact ⟨mem_occupiedSlots.2 ⟨_, v, hv⟩, hp⟩
  · rintro ⟨ho, hp⟩
    obtain ⟨g, v, e⟩ := mem_occupiedSlots.1 ho
    obtain ⟨h, hh⟩ := hs.exists_handle e
    obtain ⟨rfl, rfl⟩ := Handle.new?_eq_some_iff.1 hh
    have hm : h ∈ s.handles := mem_handles.2 ⟨v, e⟩
    rw [generationAt_of_mem_handles hm] at hp
    exact ⟨h, ⟨hm, hp⟩, rfl⟩

theorem pairwise_slots_filter (s : Store α) (p : Handle → Bool) :
    ((s.handles.filter p).map Handle.slot).Pairwise (· < ·) :=
  List.pairwise_map.2 ((pairwise_slot_handles s).filter p)

theorem WellFormed.card_slots_filter (hs : s.WellFormed) (p : Nat → Prop) [DecidablePred p] :
    (s.occupiedSlots.filter fun i => p (s.generationAt i)).card =
      s.handles.countP fun h => p h.generation := by
  have he : (s.occupiedSlots.filter fun i => p (s.generationAt i)) =
      ((s.handles.filter fun h => p h.generation).map Handle.slot).toFinset := by
    ext i
    rw [Finset.mem_filter, List.mem_toFinset, hs.mem_slots_filter p]
  rw [he, List.toFinset_card_of_nodup ((pairwise_slots_filter s _).imp Nat.ne_of_lt),
    List.length_map, List.countP_eq_length_filter]

/-! ## All lives have ended -/

theorem live_clear (hs : s.WellFormed) : s.clear.state.live = 0 := by
  have hw : s.clear.state.WellFormed := hs.after_run [.clear]
  rw [← hw.card_keys_contents, contents_clear, Finmap.keys_empty, Finset.card_empty]

theorem clear_of_no_handles (hh : s.handles = []) : s.clear = .ok () s [] := by
  unfold clear
  rw [hh]
  rfl

theorem handles_clear (s : Store α) : s.clear.state.handles = [] := by
  refine List.eq_nil_iff_forall_not_mem.2 fun h hm => ?_
  obtain ⟨v, hv⟩ := mem_handles.1 hm
  have hc := lookup_contents_raw.2 hv
  rw [contents_clear, Finmap.lookup_empty] at hc
  cases hc

/-- After every run, clearing ends every life and nothing else. The removals that it is made of all
succeed, each with the instance that lived under its handle before. No instance is left and none of
those handles names one; the number of places and the limit stay. A vacant place stays as it was.
An occupied one goes on to its next generation and on top of the free list, in the order of the
places; or it was in its last generation and is retired. To clear the store again does nothing. -/
theorem clear_ends_every_life (limit : StoreLimit) (slotBytes : Nat) (ops : List (Op α)) :
    let s := run ops (empty limit slotBytes)
    let t := s.clear.state
    (∀ gone h rest, s.handles = gone ++ h :: rest → ∃ v, s.lookup h.raw = some (h, v) ∧
        ((removeAll gone s).1.remove h.raw).result = .ok v) ∧
      t.live = 0 ∧
      (∀ raw, s.contains raw = true → t.get raw = .error (.invalidHandle raw) ∧
        t.contains raw = false ∧
        (∀ (β : Type) (f : α → β × α), t.update raw f = .failed (.invalidHandle raw) t []) ∧
        t.remove raw = .failed (.invalidHandle raw) t []) ∧
      t.capacity = s.capacity ∧ t.limit = s.limit ∧
      (∀ i g : Nat, s.slots[i]? = some ⟨g, none⟩ → t.slots[i]? = some ⟨g, none⟩) ∧
      (∀ (i g : Nat) (v : α), s.slots[i]? = some ⟨g, some v⟩ →
        t.slots[i]? = some ⟨if g < maxGeneration then g + 1 else g, none⟩) ∧
      (∃ again : List Nat, again.Pairwise (· < ·) ∧
        (∀ i, i ∈ again ↔ i ∈ s.occupiedSlots ∧ s.generationAt i < maxGeneration) ∧
        t.free = again.reverse ++ s.free) ∧
      t.retired =
        s.retired + (s.occupiedSlots.filter fun i => s.generationAt i = maxGeneration).card ∧
      t.clear = .ok () t [] := by
  intro s t
  have hs : s.WellFormed := wellFormed_run limit slotBytes ops
  have hl : s.Left s.handles t := left_removeAll List.prefix_rfl
  refine ⟨?_, live_clear hs, ?_, hl.capacity_eq, hl.limit_eq, ?_, ?_, ?_, ?_, ?_⟩
  · intro gone h rest hh
    have hp : gone <+: s.handles := ⟨h :: rest, hh.symm⟩
    obtain ⟨-, v, hv, hv'⟩ := (left_removeAll hp).exists_lookup hh
    exact ⟨v, hv, (remove_ok hv').1⟩
  · intro raw _
    refine rejected_of_lookup (lookup_eq_none_iff.2 ?_)
    rw [contents_clear]
    exact Finmap.notMem_empty
  · intro i g e
    rw [hl.other i, e]
    rintro h hm rfl
    obtain ⟨v, hv⟩ := mem_handles.1 hm
    rw [hv] at e
    cases e
  · intro i g v e
    obtain ⟨h, hh⟩ := hs.exists_handle e
    obtain ⟨rfl, rfl⟩ := Handle.new?_eq_some_iff.1 hh
    exact hl.vacated h (mem_handles.2 ⟨v, e⟩)
  · exact ⟨_, pairwise_slots_filter s _, hs.mem_slots_filter (· < maxGeneration), hl.free_eq⟩
  · rw [hl.retired_eq, hs.card_slots_filter (· = maxGeneration)]
  · exact clear_of_no_handles (handles_clear s)

end HandleBridge.Store
