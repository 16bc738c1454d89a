import HandleBridge.Proofs.Store.Slots
import Mathlib.Tactic.Common

/-
  `Issues`, `Changes` and `Ends` keep a store well formed.

  Taking an instance in moves one place from the free list, or from outside the table, to the
  occupied ones. Ending its life moves one occupied place to the free list or to the retired
  ones. All other places stay as they are, so each part of the invariant is settled at the one
  place that changed.

  Proved: `wellFormed_empty`, `WellFormed.of_issues`, `WellFormed.of_changes`,
  `WellFormed.of_ends`, `WellFormed.setLimit`.
-/

namespace HandleBridge.Store

variable {α : Type} {s t : Store α} {i g : Nat} {h : Handle} {v w : α}

theorem wellFormed_empty (limit : StoreLimit) (slotBytes : Nat) :
    (empty limit slotBytes : Store α).WellFormed where
  capacity_le := Nat.zero_le _
  generation_le e := by simp [empty] at e
  free_nodup := List.nodup_nil
  vacant_of_free hi := by simp [empty] at hi
  spent_of_not_free e := by simp [empty] at e
  live_eq := by simp [empty, occupiedSlots]
  retired_eq := by simp [empty, retiredSlots, capacity]
  total_eq := rfl

theorem WellFormed.setLimit (hs : s.WellFormed) (limit : StoreLimit) :
    (s.setLimit limit).WellFormed :=
  ⟨hs.1, hs.2, hs.3, hs.4, hs.5, hs.6, hs.7, hs.8⟩

/-! ## Taking an instance in -/

theorem Placed.mem_occupiedSlots {slot : Slot α} (p : s.Placed t i slot) {j : Nat} :
    j ∈ t.occupiedSlots ↔ if j = i then slot.value.isSome = true else j ∈ s.occupiedSlots := by
  rw [Store.mem_occupiedSlots, Store.mem_occupiedSlots, p j]
  by_cases hj : j = i
  · obtain ⟨g, o⟩ := slot
    rw [if_pos hj, if_pos hj]
    cases o <;> simp
  · rw [if_neg hj, if_neg hj]

theorem Issues.occupiedSlots_eq (e : s.Issues h v t) :
    t.occupiedSlots = Insert.insert h.slot s.occupiedSlots := by
  ext j
  rw [e.placed.mem_occupiedSlots, Finset.mem_insert]
  by_cases hj : j = h.slot <;> simp [hj]

theorem Issues.not_mem_occupiedSlots (e : s.Issues h v t) : h.slot ∉ s.occupiedSlots := by
  rw [mem_occupiedSlots]
  rintro ⟨g, w, hw⟩
  rcases e.chosen with ⟨hv, -, -⟩ | ⟨-, -, hc, -, -⟩
  · rw [hv] at hw
    cases hw
  · exact absurd (lt_capacity_of_getElem? hw) (by omega)

theorem Issues.mem_free_iff (e : s.Issues h v t) {j : Nat} (hj : j ≠ h.slot) :
    j ∈ t.free ↔ j ∈ s.free := by
  rcases e.chosen with ⟨-, hf, -⟩ | ⟨hf, hf', -⟩
  · rw [hf, List.mem_cons]
    simp [hj]
  · rw [hf, hf']

theorem Issues.retiredSlots_eq (e : s.Issues h v t) : t.retiredSlots = s.retiredSlots := by
  ext j
  rw [mem_retiredSlots, mem_retiredSlots]
  by_cases hj : j = h.slot
  · subst hj
    constructor
    · rintro ⟨-, g, hg⟩
      rw [e.placed.same] at hg
      cases hg
    · rintro ⟨hf, g, hg⟩
      rcases e.chosen with ⟨-, hc, -⟩ | ⟨-, -, hc, -⟩
      · exact absurd (by rw [hc]; exact List.mem_cons_self) hf
      · exact absurd (lt_capacity_of_getElem? hg) (by omega)
  · rw [e.mem_free_iff hj, e.placed.other hj]

theorem WellFormed.of_issues (hs : s.WellFormed) (e : s.Issues h v t) : t.WellFormed where
  capacity_le := by
    have hl := h.slot_lt
    have hc := hs.capacity_le
    rcases e.chosen with ⟨-, -, ht⟩ | ⟨-, -, hn, -, ht⟩ <;> omega
  generation_le := by
    intro j g o hj
    by_cases hi : j = h.slot
    · rw [hi, e.placed.same] at hj
      cases hj
      exact h.generation_le
    · rw [e.placed.other hi] at hj
      exact hs.generation_le hj
  free_nodup := by
    rcases e.chosen with ⟨-, hf, -⟩ | ⟨-, hf, -⟩
    · have hn := hs.free_nodup
      rw [hf] at hn
      exact (List.nodup_cons.1 hn).2
    · rw [hf]
      exact List.nodup_nil
  vacant_of_free := by
    intro j hj
    have hne : j ≠ h.slot := by
      rintro rfl
      rcases e.chosen with ⟨-, hf, -⟩ | ⟨-, hf, -⟩
      · have hn := hs.free_nodup
        rw [hf] at hn
        exact (List.nodup_cons.1 hn).1 hj
      · rw [hf] at hj
        cases hj
    rw [e.placed.other hne]
    exact hs.vacant_of_free ((e.mem_free_iff hne).1 hj)
  spent_of_not_free := by
    intro j g hj hf
    by_cases hi : j = h.slot
    · rw [hi, e.placed.same] at hj
      cases hj
    · rw [e.placed.other hi] at hj
      exact hs.spent_of_not_free hj fun hm => hf ((e.mem_free_iff hi).2 hm)
  live_eq := by
    rw [e.occupiedSlots_eq, Finset.card_insert_of_notMem e.not_mem_occupiedSlots, e.live_eq,
      hs.live_eq]
  retired_eq := by rw [e.retiredSlots_eq, e.retired_eq, hs.retired_eq]
  total_eq := by
    have ht := hs.total_eq
    rw [e.live_eq, e.retired_eq]
    rcases e.chosen with ⟨-, hf, hc⟩ | ⟨hf, hf', -, -, hc⟩
    · rw [hf, List.length_cons] at ht
      omega
    · rw [hf, List.length_nil] at ht
      rw [hf', List.length_nil]
      omega

/-! ## Putting another value in its place -/

theorem Changes.occupiedSlots_eq (e : s.Changes h v w t) : t.occupiedSlots = s.occupiedSlots := by
  ext j
  rw [e.placed.mem_occupiedSlots]
  by_cases hj : j = h.slot
  · simp only [hj, if_true, Option.isSome_some, true_iff]
    exact mem_occupiedSlots.2 ⟨_, _, e.occupied⟩
  · rw [if_neg hj]

theorem Changes.vacant_iff (e : s.Changes h v w t) {j g : Nat} :
    t.slots[j]? = some ⟨g, none⟩ ↔ s.slots[j]? = some ⟨g, none⟩ := by
  by_cases hj : j = h.slot
  · rw [hj, e.placed.same, e.occupied]
    simp
  · rw [e.placed.other hj]

theorem Changes.retiredSlots_eq (e : s.Changes h v w t) : t.retiredSlots = s.retiredSlots := by
  ext j
  rw [mem_retiredSlots, mem_retiredSlots, e.free_eq]
  simp only [e.vacant_iff]

theorem WellFormed.of_changes (hs : s.WellFormed) (e : s.Changes h v w t) : t.WellFormed where
  capacity_le := by
    rw [e.capacity_eq]
    exact hs.capacity_le
  generation_le := by
    intro j g o hj
    by_cases hi : j = h.slot
    · rw [hi, e.placed.same] at hj
      cases hj
      exact h.generation_le
    · rw [e.placed.other hi] at hj
      exact hs.generation_le hj
  free_nodup := by
    rw [e.free_eq]
    exact hs.free_nodup
  vacant_of_free := by
    intro j hj
    rw [e.free_eq] at hj
    obtain ⟨g, hg⟩ := hs.vacant_of_free hj
    exact ⟨g, e.vacant_iff.2 hg⟩
  spent_of_not_free := by
    intro j g hj hf
    rw [e.free_eq] at hf
    exact hs.spent_of_not_free (e.vacant_iff.1 hj) hf
  live_eq := by rw [e.occupiedSlots_eq, e.live_eq, hs.live_eq]
  retired_eq := by rw [e.retiredSlots_eq, e.retired_eq, hs.retired_eq]
  total_eq := by
    rw [e.live_eq, e.retired_eq, e.free_eq, e.capacity_eq]
    exact hs.total_eq

/-! ## Ending its life -/

theorem Ends.occupiedSlots_eq (e : s.Ends h v t) :
    t.occupiedSlots = s.occupiedSlots.erase h.slot := by
  ext j
  rw [Finset.mem_erase]
  rcases e.vacated with ⟨-, p, -⟩ | ⟨-, p, -⟩
  all_goals
    rw [p.mem_occupiedSlots]
    by_cases hj : j = h.slot <;> simp [hj]

theorem Ends.slot_not_free (hs : s.WellFormed) (e : s.Ends h v t) : h.slot ∉ s.free := by
  intro hf
  obtain ⟨g, hg⟩ := hs.vacant_of_free hf
  rw [e.occupied] at hg
  cases hg

theorem Ends.other (e : s.Ends h v t) {j : Nat} (hj : j ≠ h.slot) :
    t.slots[j]? = s.slots[j]? ∧ (j ∈ t.free ↔ j ∈ s.free) := by
  rcases e.vacated with ⟨-, p, hf, -⟩ | ⟨-, p, hf, -⟩
  · exact ⟨p.other hj, by rw [hf]⟩
  · exact ⟨p.other hj, by rw [hf, List.mem_cons]; simp [hj]⟩

theorem Ends.vacant (e : s.Ends h v t) : ∃ g, t.slots[h.slot]? = some ⟨g, none⟩ := by
  rcases e.vacated with ⟨-, p, -⟩ | ⟨-, p, -⟩
  · exact ⟨_, p.same⟩
  · exact ⟨_, p.same⟩

theorem Ends.retiredSlots_card (hs : s.WellFormed) (e : s.Ends h v t) :
    t.retiredSlots.card = s.retiredSlots.card + (t.retired - s.retired) := by
  have hn : h.slot ∉ s.retiredSlots := by
    rw [mem_retiredSlots]
    rintro ⟨-, g, hg⟩
    rw [e.occupied] at hg
    cases hg
  have hother : ∀ j, j ≠ h.slot → (j ∈ t.retiredSlots ↔ j ∈ s.retiredSlots) := by
    intro j hj
    rw [mem_retiredSlots, mem_retiredSlots, (e.other hj).1, (e.other hj).2]
  rcases e.vacated with ⟨-, p, hf, hr⟩ | ⟨-, p, hf, hr⟩
  · have he : t.retiredSlots = Insert.insert h.slot s.retiredSlots := by
      ext j
      rw [Finset.mem_insert]
      by_cases hj : j = h.slot
      · simp only [hj, true_or, iff_true]
        exact mem_retiredSlots.2 ⟨by rw [hf]; exact e.slot_not_free hs, _, p.same⟩
      · simp only [hj, false_or]
        exact hother j hj
    rw [he, Finset.card_insert_of_notMem hn, hr]
    omega
  · have he : t.retiredSlots = s.retiredSlots := by
      ext j
      by_cases hj : j = h.slot
      · rw [hj, mem_retiredSlots, hf]
        simp [hn]
      · exact hother j hj
    rw [he, hr]
    omega

theorem WellFormed.live_pos (hs : s.WellFormed) (e : s.slots[i]? = some ⟨g, some v⟩) :
    0 < s.live := by
  rw [hs.live_eq, Finset.card_pos]
  exact ⟨i, mem_occupiedSlots.2 ⟨g, v, e⟩⟩

theorem WellFormed.of_ends (hs : s.WellFormed) (e : s.Ends h v t) : t.WellFormed where
  capacity_le := by
    rw [e.capacity_eq]
    exact hs.capacity_le
  generation_le := by
    intro j g o hj
    by_cases hi : j = h.slot
    · have hg := h.generation_le
      subst hi
      rcases e.vacated with ⟨-, p, -⟩ | ⟨hne, p, -⟩
      all_goals
        rw [p.same] at hj
        cases hj
        omega
    · rw [(e.other hi).1] at hj
      exact hs.generation_le hj
  free_nodup := by
    rcases e.vacated with ⟨-, -, hf, -⟩ | ⟨-, -, hf, -⟩
    · rw [hf]
      exact hs.free_nodup
    · rw [hf]
      exact List.nodup_cons.2 ⟨e.slot_not_free hs, hs.free_nodup⟩
  vacant_of_free := by
    intro j hj
    by_cases hi : j = h.slot
    · rw [hi]
      exact e.vacant
    · rw [(e.other hi).1]
      exact hs.vacant_of_free ((e.other hi).2.1 hj)
  spent_of_not_free := by
    intro j g hj hf
    by_cases hi : j = h.slot
    · subst hi
      rcases e.vacated with ⟨hg, p, -⟩ | ⟨-, -, hf', -⟩
      · rw [p.same] at hj
        cases hj
        exact hg
      · rw [hf'] at hf
        exact absurd List.mem_cons_self hf
    · rw [(e.other hi).1] at hj
      exact hs.spent_of_not_free hj fun hm => hf ((e.other hi).2.2 hm)
  live_eq := by
    have hm : h.slot ∈ s.occupiedSlots := mem_occupiedSlots.2 ⟨_, _, e.occupied⟩
    rw [e.occupiedSlots_eq, Finset.card_erase_of_mem hm, e.live_eq, hs.live_eq]
  retired_eq := by
    rw [e.retiredSlots_card hs, ← hs.retired_eq]
    rcases e.vacated with ⟨-, -, -, hr⟩ | ⟨-, -, -, hr⟩ <;> omega
  total_eq := by
    have ht := hs.total_eq
    have hl := hs.live_pos e.occupied
    rw [e.live_eq, e.capacity_eq]
    rcases e.vacated with ⟨-, -, hf, hr⟩ | ⟨-, -, hf, hr⟩
    · rw [hf, hr]
      omega
    · rw [hf, hr, List.length_cons]
      omega

end HandleBridge.Store
