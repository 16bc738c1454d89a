import HandleBridge.Proofs.Store.Turns

/-
  Which place an insertion takes.

  A time is a position among the turns so far. A place waits if it was left at some time, with a
  generation to spare, and nothing has happened to it since (`Waits`). The free list holds the
  waiting places, the one that was left last on top: it is a stack of times that go down
  (`Stacks`). Leaving a place pushes the present time, and taking the place on top pops the
  latest one. A place that retires is never pushed, so it drops out of the order.

  Proved:
  * `waits_snoc`: what one more turn does to the waiting places.
  * `Stacks.of_issues`, `Stacks.of_ends`: taking a place pops, leaving it pushes unless it retires.
  * `retired_eq_countP`: the places left with no generation to spare are those counted as retired.
  * `takes_latest_vacated`: an insertion takes the place that was left last, under the next
    generation, and a new place if none waits.
-/

namespace HandleBridge

/-- At time `n` the instance under `k` left its place, which may be used again, and nothing has
happened to the place since. -/
structure Waits (past : List Turn) (n : Nat) (k : Handle) : Prop where
  went : past[n]? = some (.went k)
  spare : k.generation < maxGeneration
  since : ∀ m turn, n < m → past[m]? = some turn → turn.slot ≠ k.slot

theorem Waits.lt_length {past : List Turn} {n : Nat} {k : Handle} (h : Waits past n k) :
    n < past.length :=
  (List.getElem?_eq_some_iff.1 h.went).1

/-- A turn ends the waiting of its own place. It starts it if the place was left with a generation
to spare. -/
theorem waits_snoc {past : List Turn} {turn : Turn} {n : Nat} {k : Handle} :
    Waits (past ++ [turn]) n k ↔
      (n = past.length ∧ turn = .went k ∧ k.generation < maxGeneration) ∨
        (Waits past n k ∧ turn.slot ≠ k.slot) := by
  have hlast : (past ++ [turn])[past.length]? = some turn := List.getElem?_concat_length
  have hearly : ∀ m, m < past.length → (past ++ [turn])[m]? = past[m]? :=
    fun m hm => List.getElem?_append_left hm
  constructor
  · intro h
    have hn : n < past.length + 1 := by simpa using h.lt_length
    by_cases he : n = past.length
    · have hw := h.went
      rw [he, hlast] at hw
      exact .inl ⟨he, Option.some.inj hw, h.spare⟩
    · have hn : n < past.length := by omega
      refine .inr ⟨⟨?_, h.spare, ?_⟩, h.since past.length turn hn hlast⟩
      · rw [← hearly n hn]
        exact h.went
      · intro m turn' hm he
        have hl : m < past.length := (List.getElem?_eq_some_iff.1 he).1
        exact h.since m turn' hm (by rw [hearly m hl]; exact he)
  · rintro (⟨rfl, rfl, hs⟩ | ⟨h, hne⟩)
    · refine ⟨hlast, hs, ?_⟩
      intro m turn' hm he
      have hl : m < past.length + 1 := by simpa using (List.getElem?_eq_some_iff.1 he).1
      omega
    · refine ⟨by rw [hearly n h.lt_length]; exact h.went, h.spare, ?_⟩
      intro m turn' hm he
      have hl : m < past.length + 1 := by simpa using (List.getElem?_eq_some_iff.1 he).1
      by_cases hm' : m = past.length
      · rw [hm', hlast] at he
        rw [← Option.some.inj he]
        exact hne
      · rw [hearly m (by omega)] at he
        exact h.since m turn' hm he

namespace Store

variable {α : Type} {s t : Store α} {h : Handle} {v w : α} {past : List Turn}
  {stack : List (Nat × Handle)}

/-- The free list as a stack of the times at which its places were left. -/
structure Stacks (past : List Turn) (stack : List (Nat × Handle)) (s : Store α) : Prop where
  free_eq : s.free = stack.map fun e => e.2.slot
  latest_first : stack.Pairwise fun e e' => e'.1 < e.1
  mem_iff : ∀ n k, (n, k) ∈ stack ↔ Waits past n k
  /-- A waiting place has gone on to the next generation. -/
  vacant : ∀ n k, Waits past n k → s.slots[k.slot]? = some ⟨k.generation + 1, none⟩

theorem stacks_empty (limit : StoreLimit) (slotBytes : Nat) :
    Stacks [] [] (empty limit slotBytes : Store α) where
  free_eq := rfl
  latest_first := .nil
  mem_iff n k := by
    constructor
    · exact fun hm => nomatch hm
    · exact fun h => nomatch h.went
  vacant n k h := nomatch h.went

theorem Stacks.of_changes (hst : Stacks past stack s) (e : s.Changes h v w t) :
    Stacks past stack t where
  free_eq := by rw [e.free_eq, hst.free_eq]
  latest_first := hst.latest_first
  mem_iff := hst.mem_iff
  vacant n k hk := e.vacant_iff.2 (hst.vacant n k hk)

/-- A place that is taken does not wait any more; it was on top, if it waited. -/
theorem Stacks.of_issues (hs : s.WellFormed) (hst : Stacks past stack s) (e : s.Issues h v t) :
    ∃ stack', Stacks (past ++ [.came h]) stack' t := by
  have hwaits : ∀ n k, Waits (past ++ [.came h]) n k ↔ Waits past n k ∧ h.slot ≠ k.slot := by
    intro n k
    rw [waits_snoc]
    simp [Turn.slot, Turn.handle]
  have hvacant : ∀ n k, Waits (past ++ [.came h]) n k →
      t.slots[k.slot]? = some ⟨k.generation + 1, none⟩ := by
    intro n k hk
    obtain ⟨hk, hne⟩ := (hwaits n k).1 hk
    rw [e.placed.other (Ne.symm hne)]
    exact hst.vacant n k hk
  have hnodup := hs.free_nodup
  rw [hst.free_eq] at hnodup
  rcases e.chosen with ⟨-, hf, -⟩ | ⟨hf, hf', -⟩
  · rw [hst.free_eq] at hf
    obtain ⟨⟨m, l⟩, rest, rfl, hl, hrest⟩ := List.map_eq_cons_iff.1 hf
    have hl : l.slot = h.slot := hl
    have hn := (List.nodup_cons.1 hnodup).1
    refine ⟨rest, hrest.symm, (List.pairwise_cons.1 hst.latest_first).2, ?_, hvacant⟩
    intro n k
    rw [hwaits, ← hst.mem_iff, List.mem_cons]
    constructor
    · -- the other waiting places are other places
      intro hm
      refine ⟨.inr hm, ?_⟩
      intro he
      rw [← hl] at he
      exact hn (List.mem_map.2 ⟨(n, k), hm, he.symm⟩)
    · rintro ⟨he | hm, hne⟩
      · cases he
        exact absurd hl.symm hne
      · exact hm
  · have hnil : stack = [] := by
      rw [hst.free_eq] at hf
      exact List.map_eq_nil_iff.1 hf
    subst hnil
    refine ⟨[], hf', .nil, ?_, hvacant⟩
    intro n k
    rw [hwaits, ← hst.mem_iff]
    simp

/-- A place that is left is pushed, unless it retires. -/
theorem Stacks.of_ends (hst : Stacks past stack s) (e : s.Ends h v t) :
    ∃ stack', Stacks (past ++ [.went h]) stack' t := by
  -- it did not wait before, because its instance was live
  have hne : ∀ n k, Waits past n k → h.slot ≠ k.slot := by
    intro n k hk he
    have hv := hst.vacant n k hk
    rw [← he, e.occupied] at hv
    simp at hv
  have hwaits : ∀ n k, Waits (past ++ [.went h]) n k ↔
      (n = past.length ∧ h = k ∧ k.generation < maxGeneration) ∨ Waits past n k := by
    intro n k
    rw [waits_snoc]
    simp only [Turn.went.injEq, Turn.slot, Turn.handle]
    exact or_congr_right ⟨And.left, fun hk => ⟨hk, hne n k hk⟩⟩
  have hother : ∀ n k, Waits past n k → t.slots[k.slot]? = some ⟨k.generation + 1, none⟩ := by
    intro n k hk
    rw [(e.other (Ne.symm (hne n k hk))).1]
    exact hst.vacant n k hk
  rcases e.vacated with ⟨hg, -, hf, -⟩ | ⟨hg, p, hf, -⟩
  · have hold : ∀ n k, Waits (past ++ [.went h]) n k ↔ Waits past n k := by
      intro n k
      rw [hwaits]
      refine or_iff_right ?_
      rintro ⟨-, rfl, hlt⟩
      omega
    refine ⟨stack, hf.trans hst.free_eq, hst.latest_first, ?_, ?_⟩
    · intro n k
      rw [hold, hst.mem_iff]
    · intro n k hk
      exact hother n k ((hold n k).1 hk)
  · have hlt : h.generation < maxGeneration := Nat.lt_of_le_of_ne h.generation_le hg
    refine ⟨(past.length, h) :: stack, ?_, ?_, ?_, ?_⟩
    · rw [hf, hst.free_eq, List.map_cons]
    · refine List.pairwise_cons.2 ⟨?_, hst.latest_first⟩
      rintro ⟨n, k⟩ hm
      exact ((hst.mem_iff n k).1 hm).lt_length
    · intro n k
      rw [hwaits, List.mem_cons, hst.mem_iff, Prod.mk.injEq]
      refine or_congr_left ⟨?_, ?_⟩
      · rintro ⟨rfl, rfl⟩
        exact ⟨rfl, rfl, hlt⟩
      · rintro ⟨rfl, rfl, -⟩
        exact ⟨rfl, rfl⟩
    · intro n k hk
      rcases (hwaits n k).1 hk with ⟨-, rfl, -⟩ | hk
      · exact p.same
      · exact hother n k hk

/-- After every run the free list is the stack of the waiting places. -/
theorem stacks_run (limit : StoreLimit) (slotBytes : Nat) (ops : List (Op α)) :
    let fresh : Store α := empty limit slotBytes
    ∃ stack, Stacks (turns ops fresh) stack (run ops fresh) := by
  intro fresh
  refine turns_induction (P := fun past t => ∃ stack, Stacks past stack t) ?_ ?_ ?_ ?_
    [] ops (wellFormed_empty limit slotBytes) ⟨[], stacks_empty limit slotBytes⟩
  · rintro past s h v t hs e ⟨stack, hst⟩
    exact hst.of_issues hs e
  · rintro past s h v w t hs e ⟨stack, hst⟩
    exact ⟨stack, hst.of_changes e⟩
  · rintro past s h v t hs e ⟨stack, hst⟩
    exact hst.of_ends e
  · rintro past s limit ⟨stack, hst⟩
    exact ⟨stack, hst.1, hst.2, hst.3, hst.4⟩

/-- The place that is taken is the one on top of the stack. -/
theorem Stacks.takes_top (hst : Stacks past stack s) (e : s.Issues h v t) :
    ((∃ n k, Waits past n k) → ∃ n k, Waits past n k ∧ (∀ m l, Waits past m l → m ≤ n) ∧
        h.slot = k.slot ∧ h.generation = k.generation + 1) ∧
      ((¬ ∃ n k, Waits past n k) → h.slot = s.capacity ∧ h.generation = 0) := by
  rcases e.chosen with ⟨hv, hf, -⟩ | ⟨hf, -, hn, hg, -⟩
  · rw [hst.free_eq] at hf
    obtain ⟨⟨n, k⟩, rest, rfl, hk, -⟩ := List.map_eq_cons_iff.1 hf
    have hk : k.slot = h.slot := hk
    have hw : Waits past n k := (hst.mem_iff n k).1 List.mem_cons_self
    refine ⟨fun _ => ⟨n, k, hw, ?_, hk.symm, ?_⟩, fun hnone => absurd ⟨n, k, hw⟩ hnone⟩
    · intro m l hm
      rcases List.mem_cons.1 ((hst.mem_iff m l).2 hm) with he | hm
      · cases he
        exact Nat.le_refl _
      · exact Nat.le_of_lt ((List.pairwise_cons.1 hst.latest_first).1 _ hm)
    · have hv' := hst.vacant n k hw
      rw [hk, hv] at hv'
      simpa using hv'
  · refine ⟨?_, fun _ => ⟨hn, hg⟩⟩
    rintro ⟨n, k, hw⟩
    have hm := (hst.mem_iff n k).2 hw
    rw [hst.free_eq] at hf
    rw [List.map_eq_nil_iff.1 hf] at hm
    cases hm

/-- The store counts as retired the places that were left with no generation to spare. -/
theorem retired_eq_countP (limit : StoreLimit) (slotBytes : Nat) (ops : List (Op α)) :
    let fresh : Store α := empty limit slotBytes
    (run ops fresh).retired = (turns ops fresh).countP Turn.retires := by
  intro fresh
  refine turns_induction (P := fun past t => t.retired = past.countP Turn.retires) ?_ ?_ ?_ ?_
    [] ops (wellFormed_empty limit slotBytes) rfl
  · intro past s h v t _ e hp
    rw [e.retired_eq, hp]
    simp [Turn.retires]
  · intro past s h v w t _ e hp
    rw [e.retired_eq, hp]
  · intro past s h v t _ e hp
    rcases e.vacated with ⟨hg, -, -, hr⟩ | ⟨hg, -, -, hr⟩
    · rw [hr, hp]
      simp [Turn.retires, hg]
    · rw [hr, hp]
      simp [Turn.retires, hg]
  · exact fun _ hp => hp

/-- In every state of a run, an insertion that succeeds takes the place that was left last among
those that wait, under the generation after the one that left it. If none waits it takes a new
place, under the first generation. The places that were left under the last generation are those
that are counted as retired. Clearing counts as removing the live instances in the order of their
places. -/
theorem takes_latest_vacated (limit : StoreLimit) (slotBytes : Nat) (ops : List (Op α))
    (heap : Allocator) (v : α) (h : Handle)
    (hr : ((run ops (empty limit slotBytes)).insert heap v).result = .ok h) :
    let s := run ops (empty limit slotBytes)
    let past := turns ops (empty limit slotBytes)
    ((∃ n k, Waits past n k) → ∃ n k, Waits past n k ∧ (∀ m l, Waits past m l → m ≤ n) ∧
        h.slot = k.slot ∧ h.generation = k.generation + 1) ∧
      ((¬ ∃ n k, Waits past n k) → h.slot = s.capacity ∧ h.generation = 0) ∧
      s.retired = past.countP Turn.retires ∧
      (∀ k, k ∈ s.handles ↔ ∃ w, s.lookup k.raw = some (k, w)) ∧
      (s.handles.Pairwise fun a b => a.slot < b.slot) ∧
      s.clear.state = run (s.handles.map fun k => .remove k.raw) s ∧
      Op.clear.turns s = turns (s.handles.map fun k => .remove k.raw) s := by
  intro s past
  have hs : s.WellFormed := wellFormed_run limit slotBytes ops
  obtain ⟨stack, hst⟩ := stacks_run limit slotBytes ops
  obtain ⟨hwaiting, hnew⟩ := hst.takes_top (insert_ok hs hr)
  exact ⟨hwaiting, hnew, retired_eq_countP limit slotBytes ops, clear_as_removals s⟩

/-- Place 1 is left by a removal, then clearing leaves the places 0 and 2, in this order. So the
next insertion takes place 2. -/
theorem last_cleared_taken_first :
    let heap : Allocator := fun _ => some 16
    let ops : List (Op Nat) :=
      [.insert heap 5, .insert heap 6, .insert heap 7, .remove 2, .clear]
    let s := run ops (empty .default 32)
    let past := turns ops (empty .default 32)
    ∃ h, (s.insert heap 8).result = .ok h ∧ h.slot = 2 ∧ h.generation = 1 ∧
      ∃ n k, Waits past n k ∧ (∀ m l, Waits past m l → m ≤ n) ∧
        h.slot = k.slot ∧ h.generation = k.generation + 1 := by
  intro heap ops s past
  have hr : (s.insert heap 8).result = .ok ⟨2, 1, by decide, by decide⟩ := by decide +kernel
  have hw : Waits past 5 ⟨2, 0, by decide, by decide⟩ := by
    refine ⟨by decide +kernel, by decide, ?_⟩
    intro m turn hm he
    have hl : past.length = 6 := by decide +kernel
    have hm' := (List.getElem?_eq_some_iff.1 he).1
    omega
  exact ⟨_, hr, rfl, rfl,
    (takes_latest_vacated .default 32 ops heap 8 _ hr).1 ⟨5, _, hw⟩⟩

end Store

end HandleBridge
