import HandleBridge.Proofs.Store.Counting
import HandleBridge.Store.Bulk

/-
  A store that is filled and emptied again and again, one instance at a time.

  Each round takes the one place that waits, or a new place if none does, and leaves it with its
  next generation. So the store counts: after `k` rounds it has retired `k / 65536` places, and the
  place in use has come to generation `k % 65536` (`Churned`). It crosses from one place to the next
  with every 65536th round, and after the last round of the last place no insertion is possible.

  Proved:
  * `tableGrowth?_le`: how large the slot table may become.
  * `Churned.round`: what one round makes of the count, and the handle that it issues.
  * `churn_in_closed_form`: all rounds there can be, and the end.
-/

namespace HandleBridge.Store

variable {α : Type} {s t : Store α} {v : α} {heap : Allocator} {limit : StoreLimit}
  {slotBytes ceiling k m n : Nat} {make : Nat → α} {p : Progress} {log : List Event}

/-! ## Room for the slot table -/

/-- The slot table never needs room for more than 65536 places. -/
theorem tableGrowth?_le {used : Nat} (hu : used < maxSlots)
    (h : tableGrowth? slotBytes used = some n) : n ≤ 65536 := by
  unfold tableGrowth? at h
  have hstart : (if slotBytes ≤ 1024 then 4 else 1) ≤ 4 := by split <;> decide
  generalize (if slotBytes ≤ 1024 then 4 else 1) = start at h hstart
  dsimp only at h
  split at h
  · cases h
    omega
  · rename_i hz
    split at h
    · rename_i hp
      cases h
      simp only [Bool.and_eq_true, beq_iff_eq, Nat.one_shiftLeft] at hp
      -- a power of two below 65535 is at most 32768
      have hlog : used.log2 < 16 := (Nat.log2_lt hz).2 (by unfold maxSlots at hu; omega)
      have hpow : 2 ^ used.log2 ≤ 2 ^ 15 := Nat.pow_le_pow_right (by decide) (by omega)
      omega
    · cases h

theorem mayGrow_of_grants (hg : ∀ places ≤ 65536, heap.grants (places * slotBytes) = true)
    (hb : s.slotBytes = slotBytes) (hc : s.capacity < maxSlots) : s.mayGrow heap = true := by
  unfold mayGrow
  split
  · rfl
  · rename_i n hn
    rw [hb]
    exact hg n (tableGrowth?_le hc hn)

theorem slotBytes_insert (s : Store α) (heap : Allocator) (v : α) :
    (s.insert heap v).state.slotBytes = s.slotBytes := by
  unfold insert
  repeat' split
  all_goals rfl

theorem slotBytes_remove (s : Store α) (raw : UInt32) :
    (s.remove raw).state.slotBytes = s.slotBytes := by
  unfold remove
  repeat' split
  all_goals rfl

/-! ## One round -/

/-- From `s` an insertion of `v` issues `h`, and the removal of `h` gives `v` back and leaves
`t`. -/
structure Round (heap : Allocator) (v : α) (s : Store α) (h : Handle) (t : Store α) : Prop where
  inserted : (s.insert heap v).result = .ok h
  removed : ((s.insert heap v).state.remove h.raw).result = .ok v
  state_eq : ((s.insert heap v).state.remove h.raw).state = t

/-- The store after `k` rounds. -/
structure Churned (limit : StoreLimit) (slotBytes k : Nat) (s : Store α) : Prop where
  wellFormed : s.WellFormed
  limit_eq : s.limit = limit
  slotBytes_eq : s.slotBytes = slotBytes
  live_eq : s.live = 0
  retired_eq : s.retired = k / 65536
  /-- The last place has just retired, or there was none yet. -/
  free_eq_nil : k % 65536 = 0 → s.free = []
  /-- The place in use waits for the next round. -/
  waiting : k % 65536 ≠ 0 → s.free = [k / 65536] ∧
    s.slots[k / 65536]? = some ⟨k % 65536, none⟩

theorem churned_empty (limit : StoreLimit) (slotBytes : Nat) :
    Churned limit slotBytes 0 (empty limit slotBytes : Store α) where
  wellFormed := wellFormed_empty limit slotBytes
  limit_eq := rfl
  slotBytes_eq := rfl
  live_eq := rfl
  retired_eq := rfl
  free_eq_nil _ := rfl
  waiting h := absurd rfl h

theorem Churned.capacity_eq (hc : Churned limit slotBytes k s) :
    s.capacity = (k + 65535) / 65536 := by
  have ht := hc.wellFormed.total_eq
  rw [hc.live_eq, hc.retired_eq] at ht
  by_cases hk : k % 65536 = 0
  · rw [hc.free_eq_nil hk, List.length_nil] at ht
    omega
  · rw [(hc.waiting hk).1, List.length_singleton] at ht
    omega

/-- The place of the next round, and its generation. -/
theorem Churned.issues {h : Handle} (hc : Churned limit slotBytes k s) (e : s.Issues h v t) :
    h.slot = k / 65536 ∧ h.generation = k % 65536 ∧ t.free = [] := by
  rcases e.chosen with ⟨hv, hf, -⟩ | ⟨hf, hf', hn, hg, -⟩
  · have hk : k % 65536 ≠ 0 := by
      intro hk
      rw [hc.free_eq_nil hk] at hf
      cases hf
    obtain ⟨hw, hp⟩ := hc.waiting hk
    rw [hw, List.cons.injEq] at hf
    rw [← hf.1, hp] at hv
    simp only [Option.some.injEq, Slot.mk.injEq, and_true] at hv
    exact ⟨hf.1.symm, hv.symm, hf.2.symm⟩
  · have hk : k % 65536 = 0 := by
      by_contra hk
      rw [(hc.waiting hk).1] at hf
      cases hf
    have hcap := hc.capacity_eq
    exact ⟨by omega, by omega, hf'⟩

theorem Churned.after_round {t u : Store α} {h : Handle} (hc : Churned limit slotBytes k s)
    (hi : s.Issues h v t) (he : t.Ends h v u) (hb : u.slotBytes = s.slotBytes) :
    Churned limit slotBytes (k + 1) u := by
  obtain ⟨hslot, hgen, hfree⟩ := hc.issues hi
  have hlive := hc.live_eq
  have hretired := hc.retired_eq
  have hr := hi.retired_eq
  rcases he.vacated with ⟨hg, p, hf, hr'⟩ | ⟨hg, p, hf, hr'⟩
  · unfold maxGeneration at hg
    refine ⟨(hc.wellFormed.of_issues hi).of_ends he, ?_, hb.trans hc.slotBytes_eq, ?_, by omega,
      fun _ => hf.trans hfree, fun hk => absurd hk (by omega)⟩
    · rw [he.limit_eq, hi.limit_eq, hc.limit_eq]
    · rw [he.live_eq, hi.live_eq, hlive]
  · unfold maxGeneration at hg
    have hdiv : (k + 1) / 65536 = k / 65536 := by omega
    have hmod : (k + 1) % 65536 = k % 65536 + 1 := by omega
    refine ⟨(hc.wellFormed.of_issues hi).of_ends he, ?_, hb.trans hc.slotBytes_eq, ?_, by omega,
      fun hk => absurd hk (by omega), fun _ => ⟨?_, ?_⟩⟩
    · rw [he.limit_eq, hi.limit_eq, hc.limit_eq]
    · rw [he.live_eq, hi.live_eq, hlive]
    · rw [hf, hfree, hslot, hdiv]
    · rw [hdiv, hmod, ← hslot, ← hgen]
      exact p.same

/-- As long as a place is left there is another round. -/
theorem Churned.round (hc : Churned limit slotBytes k s) (hl : 1 ≤ limit.max)
    (hg : ∀ places ≤ 65536, heap.grants (places * slotBytes) = true) (hk : k < 65535 * 65536)
    (v : α) : ∃ h t, Round heap v s h t ∧ h.slot = k / 65536 ∧ h.generation = k % 65536 ∧
      Churned limit slotBytes (k + 1) t := by
  have hcap := hc.capacity_eq
  have hlive := hc.live_eq
  have hlt : s.free = [] → s.capacity < maxSlots := by
    intro hf
    have hk' : k % 65536 = 0 := by
      by_contra hk'
      rw [(hc.waiting hk').1] at hf
      cases hf
    unfold maxSlots
    omega
  have he : ¬ s.Exhausted := by
    rw [hc.wellFormed.exhausted_iff, hc.limit_eq]
    rintro (hm | ⟨-, hf, hm⟩)
    · omega
    · exact Nat.ne_of_lt (hlt hf) hm
  have hs : ¬ s.Starved heap := by
    rw [hc.wellFormed.starved_iff]
    rintro ⟨-, -, hm, hgrow⟩
    rw [mayGrow_of_grants hg hc.slotBytes_eq hm] at hgrow
    cases hgrow
  obtain ⟨h, hr⟩ := insert_of_room (v := v) hc.wellFormed he hs
  have hi := insert_ok hc.wellFormed hr
  obtain ⟨hslot, hgen, -⟩ := hc.issues hi
  obtain ⟨hv, hends⟩ := remove_ok (lookup_raw_eq_some_iff.2 hi.placed.same)
  refine ⟨h, _, ⟨hr, hv, rfl⟩, hslot, hgen, hc.after_round hi hends ?_⟩
  rw [slotBytes_remove, slotBytes_insert]

/-- When all places are retired there is none. -/
theorem Churned.exhausted (hc : Churned limit slotBytes (65535 * 65536) s) (heap : Allocator)
    (v : α) : s.insert heap v = .failed (.capacityExhausted limit.max) s [] := by
  have hr : s.retired = maxSlots := by
    rw [hc.retired_eq]
    rfl
  rw [insert_of_exhausted hc.wellFormed (exhausted_of_retired hc.wellFormed hr), hc.limit_eq]

/-! ## All rounds -/

/-- Churning goes on where it got to, unless an operation failed. -/
theorem churn_add (hp : p.failure = none) :
    churn heap ceiling make (m + n) p s log =
      match churn heap ceiling make m p s log with
      | (p', s', log') =>
        if p'.failure = none then churn heap ceiling make n p' s' log' else (p', s', log') := by
  induction m generalizing p s log with
  | zero => simp [churn, hp]
  | succ m ih =>
    rw [Nat.succ_add, churn, churn]
    dsimp only
    split
    · split
      · exact ih (p := p.advance _) hp
      · simp [Progress.stop]
    · simp [Progress.stop]

theorem churn_one_of_round {h : Handle} (hr : Round heap (make p.done) s h t) (ceiling : Nat)
    (log : List Event) :
    ∃ log', churn heap ceiling make 1 p s log = (p.advance h, t, log') := by
  obtain ⟨hi, hv, ht⟩ := hr
  rw [churn]
  simp only [hi, hv, ht]
  exact ⟨_, rfl⟩

theorem churn_one_of_failed {cause : Fault}
    (hf : s.insert heap (make p.done) = .failed cause s []) :
    churn heap ceiling make (n + 1) p s log = (p.stop cause, s, log) := by
  rw [churn]
  simp only [hf, Step.failed, Event.visible, List.filter_nil, List.foldl_nil]

/-- The store after so many rounds, and how far they got. -/
theorem churned_churn (hl : 1 ≤ limit.max)
    (hg : ∀ places ≤ 65536, heap.grants (places * slotBytes) = true) (hn : n ≤ 65535 * 65536) :
    ∃ p s log, churn heap ceiling make n {} (empty limit slotBytes) [] = (p, s, log) ∧
      p.done = n ∧ p.failure = none ∧ Churned limit slotBytes n s := by
  induction n with
  | zero => exact ⟨{}, _, [], rfl, rfl, rfl, churned_empty limit slotBytes⟩
  | succ n ih =>
    obtain ⟨p, s, log, hc, hd, hp, hs⟩ := ih (by omega)
    obtain ⟨h, t, hr, -, -, ht⟩ := hs.round hl hg (by omega) (make n)
    rw [← hd] at hr
    obtain ⟨log', h1⟩ := churn_one_of_round hr ceiling log
    refine ⟨p.advance h, t, log', ?_, congrArg (· + 1) hd, hp, ht⟩
    rw [churn_add rfl, hc]
    simp only [hp, if_true, h1]

/-- Inserting an instance and removing it again, over and over, from a store that takes at least one
instance and whose slot table is never refused room: up to 65535 * 65536 rounds all succeed. Round
`k`, counted from zero, issues the handle of place `k / 65536` under generation `k % 65536`. After
`n` rounds nothing is live, `n / 65536` places are retired, and there are as many places as
generations were needed for. Further rounds fail: the next insertion finds all places retired. -/
theorem churn_in_closed_form (limit : StoreLimit) (hl : 1 ≤ limit.max) (slotBytes : Nat)
    (heap : Allocator) (hg : ∀ places ≤ 65536, heap.grants (places * slotBytes) = true)
    (ceiling : Nat) (make : Nat → α) :
    let after (n : Nat) := churn heap ceiling make n {} (empty limit slotBytes) []
    let store (n : Nat) := (after n).2.1
    (∀ n ≤ 65535 * 65536, (after n).1.done = n ∧ (after n).1.failure = none ∧
        (store n).live = 0 ∧ (store n).retired = n / 65536 ∧
        (store n).capacity = (n + 65535) / 65536) ∧
      (∀ k < 65535 * 65536, ∃ h : Handle, h.slot = k / 65536 ∧ h.generation = k % 65536 ∧
        Round heap (make k) (store k) h (store (k + 1)) ∧ (after (k + 1)).1.last = some h) ∧
      (∀ n > 65535 * 65536, (after n).1.done = 65535 * 65536 ∧
        (after n).1.failure = some (.capacityExhausted limit.max) ∧
        store n = store (65535 * 65536)) ∧
      ∀ (heap : Allocator) (v : α), (store (65535 * 65536)).insert heap v =
        .failed (.capacityExhausted limit.max) (store (65535 * 65536)) [] := by
  intro after store
  -- a name for the number of all rounds, so that nothing counts up to it
  obtain ⟨last, hlast⟩ : ∃ last, last = 65535 * 65536 := ⟨_, rfl⟩
  simp only [← hlast]
  have hafter : ∀ n ≤ last, ∃ p s log, after n = (p, s, log) ∧ p.done = n ∧
      p.failure = none ∧ Churned limit slotBytes n s :=
    fun n hn => churned_churn hl hg (hlast ▸ hn)
  refine ⟨?_, ?_, ?_, ?_⟩
  · intro n hn
    obtain ⟨p, s, log, hc, hd, hp, hs⟩ := hafter n hn
    simp only [store, hc]
    exact ⟨hd, hp, hs.live_eq, hs.retired_eq, hs.capacity_eq⟩
  · intro k hk
    obtain ⟨p, s, log, hc, hd, hp, hs⟩ := hafter k (Nat.le_of_lt hk)
    obtain ⟨h, t, hr, hslot, hgen, -⟩ := hs.round hl hg (hlast ▸ hk) (make k)
    have hr' := hr
    rw [← hd] at hr'
    obtain ⟨log', h1⟩ := churn_one_of_round hr' ceiling log
    have hnext : after (k + 1) = (p.advance h, t, log') := by
      have ha : after (k + 1) = _ := churn_add rfl
      rw [ha, show churn heap ceiling make k {} (empty limit slotBytes) [] = _ from hc]
      simp only [hp, if_true, h1]
    refine ⟨h, hslot, hgen, ?_, ?_⟩
    · simp only [store, hc, hnext]
      exact hr
    · rw [hnext]
      rfl
  · intro n hn
    obtain ⟨p, s, log, hc, hd, hp, hs⟩ := hafter last (Nat.le_refl _)
    have hfull := (hlast ▸ hs).exhausted heap (make p.done)
    obtain ⟨m, rfl⟩ : ∃ m, n = last + (m + 1) := ⟨n - last - 1, by omega⟩
    have hend : after (last + (m + 1)) = (p.stop (.capacityExhausted limit.max), s, log) := by
      have ha : after (last + (m + 1)) = _ := churn_add rfl
      rw [ha, show churn heap ceiling make last {} (empty limit slotBytes) [] = _ from hc]
      simp only [hp, if_true, churn_one_of_failed hfull]
    simp only [store, hc, hend]
    exact ⟨hd, rfl, trivial⟩
  · intro heap v
    obtain ⟨p, s, log, hc, -, -, hs⟩ := hafter last (Nat.le_refl _)
    simp only [store, hc]
    exact (hlast ▸ hs).exhausted heap v

/-- A store for one instance on a heap of eight mebibytes per request: the round after the first
crossing takes the second place, in its first generation. -/
theorem churn_across_first_place :
    let after (n : Nat) := churn (Heap.capped 8388608).allocator 0 id n {}
      (empty (.atMost 1) 32 : Store Nat) []
    1 ≤ (StoreLimit.atMost 1).max ∧
      (∀ places ≤ 65536, (Heap.capped 8388608).allocator.grants (places * 32) = true) ∧
      (after 65537).1.done = 65537 ∧ (after 65537).2.1.retired = 1 ∧
      (after 65537).2.1.capacity = 2 ∧
      ∃ h : Handle, h.slot = 1 ∧ h.generation = 0 ∧ (after 65537).1.last = some h := by
  intro after
  have hl : 1 ≤ (StoreLimit.atMost 1).max := by decide
  have hg : ∀ places ≤ 65536,
      (Heap.capped 8388608).allocator.grants (places * 32) = true := by
    intro places hp
    rw [Heap.grants_capped]
    exact decide_eq_true (by omega)
  obtain ⟨hcount, hround, -⟩ := churn_in_closed_form (.atMost 1) hl 32
    (Heap.capped 8388608).allocator hg 0 (id : Nat → Nat)
  have hat : ∀ n ≤ 65535 * 65536, (after n).1.done = n ∧ (after n).2.1.retired = n / 65536 ∧
      (after n).2.1.capacity = (n + 65535) / 65536 := by
    intro n hn
    obtain ⟨hd, -, -, hr, hc⟩ := hcount n hn
    exact ⟨hd, hr, hc⟩
  have hlast : ∀ n, 1 ≤ n → n ≤ 65535 * 65536 → ∃ h : Handle, h.slot = (n - 1) / 65536 ∧
      h.generation = (n - 1) % 65536 ∧ (after n).1.last = some h := by
    intro n hn hm
    obtain ⟨k, rfl⟩ := Nat.exists_eq_add_of_le' hn
    obtain ⟨h, hs, hgen, -, hlast⟩ := hround k hm
    exact ⟨h, hs, hgen, hlast⟩
  obtain ⟨hd, hr, hc⟩ := hat 65537 (by decide)
  exact ⟨hl, hg, hd, hr, hc, hlast 65537 (by decide) (by decide)⟩

end HandleBridge.Store
