import HandleBridge.Proofs.Buffer.Refills
import HandleBridge.Proofs.Record.Calls

/-
  What the zeros of the record module tell.

  Three exports answer zero for several reasons at once, and the other side goes on from there. It
  may call anything with any words, and copy into the strings in between; the allocator may refuse
  whatever it likes, and is relied on for one thing only: no block that it grants lies at address
  zero. Addresses have 64 bits here.

  `Effect` says all that an act can do to the records. The invariant (`Sound`) is that every live
  record has a block with a nul at least, at an address other than zero.

  Proved:
  * `Sound.play`: every act is answered, and what it does to the records.
  * `Effect.sound`, `Change.stands`: the step of the invariant, and what a string keeps whose
    handle is neither set nor ended.
  * `Sound.address_cases`, `Sound.length_cases`, `Sound.reserve_cases`: the answers.
  * `sentinels_exact`: what zero means, in every state that is reached.
-/

namespace HandleBridge

namespace Buffer

variable {b : Buffer} {bytes : ByteArray}

/-- The block has at least the nul and no more content than a length can tell, and lies at an
address other than zero. -/
structure Solid (b : Buffer) : Prop where
  size_pos : 0 < b.data.size
  size_le : b.data.size ≤ UInt32.size
  address_ne : b.address ≠ 0

theorem Holds.solid (h : b.Holds bytes) : b.Solid where
  size_pos := by
    rw [h.size_eq]
    exact Nat.succ_pos _
  size_le := by
    rw [h.size_eq]
    exact Nat.succ_le_succ h.size_le
  address_ne := h.address_ne

theorem solid_empty {a : Nat} (ha : a ≠ 0) : (empty a).Solid :=
  have h : (empty a).Holds ByteArray.empty := ⟨Bytes.zeros_succ 0, Nat.zero_le _, ha⟩
  h.solid

theorem Solid.toNat_len (h : b.Solid) : b.len.toNat = b.data.size - 1 := by
  have hp := h.size_pos
  have hs := h.size_le
  unfold len
  apply UInt32.toNat_ofNat_of_lt'
  omega

theorem Solid.len_eq_zero_iff (h : b.Solid) : b.len = 0 ↔ b.bytes.size = 0 := by
  have hb : b.bytes.size = b.len.toNat := by
    unfold Buffer.bytes
    rw [ByteArray.size_extract, h.toNat_len]
    omega
  rw [hb, ← UInt32.toNat_inj]
  rfl

theorem Solid.write (h : b.Solid) {offset : Nat} (fits : offset + bytes.size ≤ b.data.size) :
    (b.write offset bytes).Solid ∧ (b.write offset bytes).len = b.len := by
  have hs : (b.write offset bytes).data.size = b.data.size := Bytes.size_overwrite fits
  refine ⟨⟨?_, ?_, h.address_ne⟩, ?_⟩
  · rw [hs]
    exact h.size_pos
  · rw [hs]
    exact h.size_le
  · unfold len
    rw [hs]

end Buffer

namespace Record

open Script World

variable {w w' : World catalog} {raw n : UInt32} {r q : Record}
  {m m' : Finmap fun _ : UInt32 => Record}

/-! ## The other side -/

/-- What the other side can do: call an export, or copy bytes into the block of a string. -/
inductive Act where
  | create
  | address (raw : UInt32)
  | length (raw : UInt32)
  | reserve (raw n : UInt32)
  | destroy (raw : UInt32)
  | copy (raw : UInt32) (offset : Nat) (bytes : ByteArray)

namespace Act

/-- The world after an act. -/
def play : Act → World catalog → Except (Abort catalog) (World catalog)
  | create, w => (Record.create.run w).map Outcome.world
  | address raw, w => ((Record.address raw).run w).map Outcome.world
  | length raw, w => ((Record.length raw).run w).map Outcome.world
  | reserve raw n, w => ((Record.reserve raw n).run w).map Outcome.world
  | destroy raw, w => ((Record.destroy raw).run w).map Outcome.world
  | copy raw offset bytes, w => .ok (Record.copy raw offset bytes w)

/-- The act sets the string of a handle, or ends its life. -/
def Concerns (raw : UInt32) : Act → Prop
  | reserve h _ => h = raw
  | destroy h => h = raw
  | _ => False

end Act

/-- A state that the other side can bring about, on a heap that answers as `heap` does. -/
inductive Reached (heap : Heap) : World catalog → Prop where
  | start : Reached heap (World.empty catalog heap)
  | act {w w' : World catalog} (a : Act) (before : Reached heap w) (played : a.play w = .ok w') :
    Reached heap w'

/-- From one state to another without setting or ending a handle. -/
inductive Spares (raw : UInt32) (w : World catalog) : World catalog → Prop where
  | refl : Spares raw w w
  | act {w' w'' : World catalog} (a : Act) (before : Spares raw w w') (spares : ¬ a.Concerns raw)
    (played : a.play w' = .ok w'') : Spares raw w w''

/-! ## What an act does -/

/-- What becomes of the records at their handles: nothing, or one record comes or is changed, or one
goes. A string that the act does not concern stays where it is, and as long as it is. -/
inductive Change (a : Act) (m : Finmap fun _ : UInt32 => Record) :
    (Finmap fun _ : UInt32 => Record) → Prop where
  | nothing : Change a m m
  | placed {raw : UInt32} {r : Record} (solid : r.content.Solid)
    (stays : ¬ a.Concerns raw → ∀ q, m.lookup raw = some q →
      r.content.address = q.content.address ∧ r.content.len = q.content.len) :
    Change a m (m.insert raw r)
  | gone {raw : UInt32} (concerns : a.Concerns raw) : Change a m (m.erase raw)

theorem Change.solid {a : Act} (c : Change a m m')
    (h : ∀ {x p}, m.lookup x = some p → p.content.Solid) (hl : m'.lookup raw = some r) :
    r.content.Solid := by
  cases c with
  | nothing => exact h hl
  | @placed x p solid stays =>
    by_cases hx : raw = x
    · rw [hx, Finmap.lookup_insert] at hl
      cases hl
      exact solid
    · rw [Finmap.lookup_insert_of_ne _ hx] at hl
      exact h hl
  | @gone x concerns =>
    have hx : raw ≠ x := by
      intro e
      rw [e, Finmap.lookup_erase] at hl
      cases hl
    rw [Finmap.lookup_erase_ne hx] at hl
    exact h hl

theorem Change.stands {a : Act} (c : Change a m m') (ha : ¬ a.Concerns raw)
    (hl : m.lookup raw = some r) : ∃ q, m'.lookup raw = some q ∧
      q.content.address = r.content.address ∧ q.content.len = r.content.len := by
  cases c with
  | nothing => exact ⟨r, hl, rfl, rfl⟩
  | @placed x p solid stays =>
    by_cases hx : raw = x
    · subst hx
      exact ⟨p, Finmap.lookup_insert _, stays ha r hl⟩
    · rw [Finmap.lookup_insert_of_ne _ hx]
      exact ⟨r, hl, rfl, rfl⟩
  | @gone x concerns =>
    have hx : raw ≠ x := fun e => ha (e ▸ concerns)
    rw [Finmap.lookup_erase_ne hx]
    exact ⟨r, hl, rfl, rfl⟩

/-- All that an act can do. -/
structure Effect (a : Act) (w w' : World catalog) : Prop where
  free : w'.isBorrowed 0 = false
  wellFormed : (w'.store 0).WellFormed
  answer_eq : w'.heap.answer = w.heap.answer
  change : Change a (w.store 0).contents (w'.store 0).contents

/-- Every live record has a block, and none that is granted lies at address zero. -/
structure Sound (w : World catalog) : Prop where
  free : w.isBorrowed 0 = false
  wellFormed : (w.store 0).WellFormed
  address_ne : ∀ {k n a : Nat}, 0 < n → w.heap.answer k n = some a → a ≠ 0
  solid : ∀ {raw r}, (w.store 0).contents.lookup raw = some r → r.content.Solid

theorem Effect.sound {a : Act} (e : Effect a w w') (h : Sound w) : Sound w' where
  free := e.free
  wellFormed := e.wellFormed
  address_ne := by
    rw [e.answer_eq]
    exact h.address_ne
  solid hl := e.change.solid h.solid hl

/-- The store has changed, and memory may have been asked for. -/
theorem effect_withStore {a : Act} {v : World catalog} {t : Store Record}
    (hb : v.isBorrowed 0 = false) (ht : t.WellFormed) (hv : v.heap.answer = w.heap.answer)
    (c : Change a (w.store 0).contents t.contents) : Effect a w (v.withStore 0 t) where
  free := by
    rw [isBorrowed_withStore]
    exact hb
  wellFormed := by
    rw [store_withStore]
    exact ht
  answer_eq := hv
  change := by
    rw [store_withStore]
    exact c

theorem store_of_cells (hc : w'.cells = w.cells) : w'.store 0 = w.store 0 := by
  unfold World.store World.cell
  rw [hc]

theorem isBorrowed_of_cells (hc : w'.cells = w.cells) : w'.isBorrowed 0 = w.isBorrowed 0 := by
  unfold World.isBorrowed World.cell
  rw [hc]

/-- Nothing but requests for memory was made. -/
theorem Sound.idle (h : Sound w) (a : Act) (hc : w'.cells = w.cells)
    (ha : w'.heap.answer = w.heap.answer) : Effect a w w' where
  free := (isBorrowed_of_cells hc).trans h.free
  wellFormed := by
    rw [store_of_cells hc]
    exact h.wellFormed
  answer_eq := ha
  change := by
    rw [store_of_cells hc]
    exact .nothing

/-! ## The answers -/

theorem contains_of_lookup (hl : (w.store 0).contents.lookup raw = some r) :
    (w.store 0).contains raw = true :=
  Store.contains_iff_mem_contents.2 (Finmap.mem_iff.2 ⟨r, hl⟩)

theorem contains_of_dead (hd : raw ∉ (w.store 0).contents) : (w.store 0).contains raw = false := by
  rw [Bool.eq_false_iff, Ne, Store.contains_iff_mem_contents]
  exact hd

theorem Sound.allocator_ne (h : Sound w) {a : Nat} {size : Nat}
    (ha : w.heap.allocator (size + 1) = some a) : a ≠ 0 := h.address_ne (Nat.succ_pos _) ha

theorem Sound.address_cases (h : Sound w) (raw : UInt32) :
    (raw ∉ (w.store 0).contents ∧ ∃ es, (address raw).run w = .ok ⟨0, w, es⟩) ∨
      ∃ r, (w.store 0).contents.lookup raw = some r ∧ r.content.Solid ∧
        (address raw).run w = .ok ⟨r.content.address, w, []⟩ := by
  by_cases hd : raw ∈ (w.store 0).contents
  · obtain ⟨r, hl⟩ := Finmap.mem_iff.1 hd
    exact .inr ⟨r, hl, h.solid hl, address_live h.free hl⟩
  · exact .inl ⟨hd, _, address_dead h.free hd⟩

theorem Sound.length_cases (h : Sound w) (raw : UInt32) :
    (raw ∉ (w.store 0).contents ∧ ∃ es, (length raw).run w = .ok ⟨0, w, es⟩) ∨
      ∃ r, (w.store 0).contents.lookup raw = some r ∧ r.content.Solid ∧
        (length raw).run w = .ok ⟨r.content.len, w, []⟩ := by
  by_cases hd : raw ∈ (w.store 0).contents
  · obtain ⟨r, hl⟩ := Finmap.mem_iff.1 hd
    exact .inr ⟨r, hl, h.solid hl, length_live h.free hl⟩
  · exact .inl ⟨hd, _, length_dead h.free hd⟩

theorem len_blank (a : Nat) (n : UInt32) : (blank a n).content.len = n := by
  show UInt32.ofNat (((Bytes.zeros n.toNat).push 0).size - 1) = n
  rw [ByteArray.size_push, Bytes.size_zeros, Nat.add_sub_cancel, UInt32.ofNat_toNat]

/-- Either no room is given and every store stays as it is, or a live record gets a block. -/
theorem Sound.reserve_cases (h : Sound w) (raw n : UInt32) :
    (((w.store 0).contains raw = false ∨ w.heap.allocator (n.toNat + 1) = none) ∧
      ∃ w' es, (reserve raw n).run w = .ok ⟨0, w', es⟩ ∧ w'.cells = w.cells ∧
        Effect (.reserve raw n) w w') ∨
    ((w.store 0).contains raw = true ∧ ∃ a w' es, w.heap.allocator (n.toNat + 1) = some a ∧
      a ≠ 0 ∧ (reserve raw n).run w = .ok ⟨a, w', es⟩ ∧ Effect (.reserve raw n) w w' ∧
        (w'.store 0).contents.lookup raw = some (blank a n)) := by
  by_cases hd : raw ∈ (w.store 0).contents
  · obtain ⟨r, hl⟩ := Finmap.mem_iff.1 hd
    cases ha : w.heap.allocator (n.toNat + 1) with
    | none =>
      obtain ⟨es, he⟩ := reserve_of_refused h.free hl ha
      exact .inl ⟨.inr rfl, w.ticked, es, he, rfl, h.idle _ rfl rfl⟩
    | some a =>
      obtain ⟨es, he⟩ := reserve_of_granted h.free hl ha
      have hz : a ≠ 0 := h.allocator_ne ha
      have hc := Store.contents_set hl (blank a n)
      refine .inr ⟨contains_of_lookup hl, a, _, es, rfl, hz, he, ?_, ?_⟩
      · refine effect_withStore h.free (h.wellFormed.after_set hl _) rfl ?_
        rw [hc]
        exact .placed (holds_blank hz n).solid fun ha => absurd rfl ha
      · rw [store_withStore, hc, Finmap.lookup_insert]
  · exact .inl ⟨.inl (contains_of_dead hd), w, _, reserve_dead n h.free hd, rfl, h.idle _ rfl rfl⟩

/-! ## All acts -/

theorem played {α : Type} {run : Except (Abort catalog) (Outcome catalog α)}
    {o : Outcome catalog α} (hr : run = .ok o) : run.map Outcome.world = .ok o.world := by
  rw [hr]
  rfl

/-- A new record has a block, whatever the allocator answers. -/
theorem Sound.make_cases (h : Sound w) : ∃ r v, make.run w = .ok ⟨r, v, []⟩ ∧ r.content.Solid ∧
    v.cells = w.cells ∧ v.heap.answer = w.heap.answer := by
  cases ha : w.heap.allocator (defaultText.toUTF8.size + 1) with
  | some a =>
    have hs := (Buffer.holds_push size_defaultText_le (h.allocator_ne ha)).solid
    exact ⟨_, _, make_of_granted ha, hs, rfl, rfl⟩
  | none =>
    have ho : Buffer.ofBytes w.heap.allocator defaultText.toUTF8 =
        .error (.outOfMemory defaultText.toUTF8.size) := Buffer.ofBytes_error_iff.2 ⟨rfl, .inr ha⟩
    have hz : (w.ticked.heap.allocator 1).getD 1 ≠ 0 := by
      cases he : w.ticked.heap.allocator 1 with
      | none => exact Nat.one_ne_zero
      | some a => exact h.address_ne Nat.one_pos he
    refine ⟨_, w.ticked.ticked, ?_, Buffer.solid_empty hz, rfl, rfl⟩
    show run (after allocator _) w = _
    simp only [run]
    rw [ho]
    rfl

theorem Sound.play_create (h : Sound w) : ∃ w', Act.create.play w = .ok w' ∧ Effect .create w w' := by
  obtain ⟨r, v, hm, hr, hc, ha⟩ := h.make_cases
  have hs : v.store 0 = w.store 0 := store_of_cells hc
  have hb : v.isBorrowed 0 = false := (isBorrowed_of_cells hc).trans h.free
  have hw : (v.store 0).WellFormed := by
    rw [hs]
    exact h.wellFormed
  rcases Store.insert_cases hw v.heap.allocator r with ⟨k, hok, hi⟩ | ⟨cause, hf⟩
  · obtain ⟨es, he⟩ : ∃ es, create.run w = .ok ⟨k.raw, v.ticked.withStore 0 _, es⟩ :=
      run_create_ok hm hb hok
    refine ⟨_, played he, effect_withStore hb (hw.of_issues hi) ha ?_⟩
    rw [Store.contents_of_issues hi, hs]
    refine .placed hr fun _ q hq => ?_
    -- the new handle was dead
    have hn := hi.not_mem_contents
    rw [hs, ← Finmap.lookup_eq_none, hq] at hn
    cases hn
  · obtain ⟨es, he⟩ : ∃ es, create.run w = .ok ⟨invalidHandle, v.ticked, es⟩ :=
      run_create_error hm hb hf
    exact ⟨_, played he, h.idle _ hc ha⟩

theorem Sound.play_destroy (h : Sound w) (raw : UInt32) :
    ∃ w', (Act.destroy raw).play w = .ok w' ∧ Effect (.destroy raw) w w' := by
  by_cases hd : raw ∈ (w.store 0).contents
  · obtain ⟨r, hl⟩ := Finmap.mem_iff.1 hd
    obtain ⟨es, he⟩ := destroy_live h.free hl
    refine ⟨_, played he, effect_withStore h.free (h.wellFormed.after_remove raw) rfl ?_⟩
    rw [Store.contents_remove]
    exact .gone rfl
  · exact ⟨w, played (destroy_dead h.free hd), h.idle _ rfl rfl⟩

theorem solid_copyInto (h : r.content.Solid) (offset : Nat) (bytes : ByteArray) :
    (copyInto offset bytes r).content.Solid ∧
      (copyInto offset bytes r).content.address = r.content.address ∧
        (copyInto offset bytes r).content.len = r.content.len := by
  unfold copyInto
  split
  · rename_i fits
    obtain ⟨hs, he⟩ := h.write fits
    exact ⟨hs, rfl, he⟩
  · exact ⟨h, rfl, rfl⟩

theorem edit_dead (f : Record → Record) (hd : raw ∉ (w.store 0).contents) :
    w.edit 0 raw f = w := by
  unfold World.edit
  rw [onStore_eq, Store.update_error (Store.lookup_eq_none_iff.2 hd)]
  exact withStore_store w 0

theorem Sound.play_copy (h : Sound w) (raw : UInt32) (offset : Nat) (bytes : ByteArray) :
    ∃ w', (Act.copy raw offset bytes).play w = .ok w' ∧ Effect (.copy raw offset bytes) w w' := by
  refine ⟨_, rfl, ?_⟩
  show Effect _ w (w.edit 0 raw (copyInto offset bytes))
  by_cases hd : raw ∈ (w.store 0).contents
  · obtain ⟨r, hl⟩ := Finmap.mem_iff.1 hd
    obtain ⟨hs, ha, hn⟩ := solid_copyInto (h.solid hl) offset bytes
    rw [edit_eq _ hl]
    refine effect_withStore h.free (h.wellFormed.after_set hl _) rfl ?_
    rw [Store.contents_set hl]
    refine .placed hs fun _ q hq => ?_
    rw [hl] at hq
    cases hq
    exact ⟨ha, hn⟩
  · rw [edit_dead _ hd]
    exact h.idle _ rfl rfl

/-- Every act is answered. -/
theorem Sound.play (h : Sound w) (a : Act) : ∃ w', a.play w = .ok w' ∧ Effect a w w' := by
  cases a with
  | create => exact h.play_create
  | address raw =>
    rcases h.address_cases raw with ⟨-, es, he⟩ | ⟨r, -, -, he⟩
    · exact ⟨w, played he, h.idle _ rfl rfl⟩
    · exact ⟨w, played he, h.idle _ rfl rfl⟩
  | length raw =>
    rcases h.length_cases raw with ⟨-, es, he⟩ | ⟨r, -, -, he⟩
    · exact ⟨w, played he, h.idle _ rfl rfl⟩
    · exact ⟨w, played he, h.idle _ rfl rfl⟩
  | reserve raw n =>
    rcases h.reserve_cases raw n with ⟨-, w', es, he, -, e⟩ | ⟨-, a, w', es, -, -, he, e, -⟩
    · exact ⟨w', played he, e⟩
    · exact ⟨w', played he, e⟩
  | destroy raw => exact h.play_destroy raw
  | copy raw offset bytes => exact h.play_copy raw offset bytes

theorem Sound.effect (h : Sound w) {a : Act} (hp : a.play w = .ok w') : Effect a w w' := by
  obtain ⟨v, hv, e⟩ := h.play a
  rw [hp] at hv
  cases hv
  exact e

/-! ## The states that are reached -/

variable {heap : Heap}

theorem sound_empty (hh : ∀ {k n a : Nat}, 0 < n → heap.answer k n = some a → a ≠ 0) :
    Sound (World.empty catalog heap) where
  free := isBorrowed_empty heap 0
  wellFormed := by
    rw [store_empty]
    exact Store.wellFormed_empty _ _
  address_ne := hh
  solid := by
    intro raw r hl
    rw [store_empty, Store.contents_empty, Finmap.lookup_empty] at hl
    cases hl

theorem Reached.sound (h : Reached heap w)
    (hh : ∀ {k n a : Nat}, 0 < n → heap.answer k n = some a → a ≠ 0) : Sound w := by
  induction h with
  | start => exact sound_empty hh
  | act a before played ih => exact (ih.effect played).sound ih

/-- A string that is neither set nor ended stays where it is, and as long as it is. -/
theorem Spares.stands (p : Spares raw w w') (h : Sound w)
    (hl : (w.store 0).contents.lookup raw = some r) :
    Sound w' ∧ ∃ q, (w'.store 0).contents.lookup raw = some q ∧
      q.content.address = r.content.address ∧ q.content.len = r.content.len := by
  -- what the next act does is known only in a sound world, so both are carried along
  induction p with
  | refl => exact ⟨h, r, hl, rfl, rfl⟩
  | act a before spares played ih =>
    obtain ⟨hs, q, hq, hqa, hql⟩ := ih
    have e := hs.effect played
    obtain ⟨p, hp, hpa, hpl⟩ := e.change.stands spares hq
    exact ⟨e.sound hs, p, hp, hpa.trans hqa, hpl.trans hql⟩

/-- What the answers of the exports tell. -/
structure ExactSentinels (w : World catalog) : Prop where
  answered : ∀ a : Act, ∃ w', a.play w = .ok w'
  /-- The address is zero for a dead handle only. -/
  address_iff : ∀ raw, ∃ a es, (address raw).run w = .ok ⟨a, w, es⟩ ∧
    (a ≠ 0 ↔ (w.store 0).contains raw = true)
  /-- The length is zero for a dead handle and for an empty string. -/
  length_iff : ∀ raw, ∃ len es, (length raw).run w = .ok ⟨len, w, es⟩ ∧
    (len = 0 ↔ (w.store 0).contains raw = false ∨
      ∃ r, (w.store 0).get raw = .ok r ∧ r.content.bytes.size = 0)
  /-- A set is answered by zero if the handle is dead or the allocator refuses the block, and then
  every store is as before. -/
  reserve_iff : ∀ raw n, ∃ a w' es, (reserve raw n).run w = .ok ⟨a, w', es⟩ ∧
    (a = 0 ↔ (w.store 0).contains raw = false ∨ w.heap.allocator (n.toNat + 1) = none) ∧
      (a = 0 → w'.cells = w.cells)
  /-- Any other answer is the address of the string until the handle is set again or ended, and the
  length is what was asked for. -/
  reserve_lasts : ∀ {raw n o}, (reserve raw n).run w = .ok o → o.value ≠ 0 →
    ∀ {w'}, Spares raw o.world w' → (∃ es, (address raw).run w' = .ok ⟨o.value, w', es⟩) ∧
      ∃ es, (length raw).run w' = .ok ⟨n, w', es⟩

theorem Sound.address_iff (h : Sound w) (raw : UInt32) :
    ∃ a es, (address raw).run w = .ok ⟨a, w, es⟩ ∧
      (a ≠ 0 ↔ (w.store 0).contains raw = true) := by
  rcases h.address_cases raw with ⟨hd, es, he⟩ | ⟨r, hl, hr, he⟩
  · exact ⟨_, es, he, by simp [contains_of_dead hd]⟩
  · exact ⟨_, _, he, by simp [contains_of_lookup hl, hr.address_ne]⟩

theorem Sound.length_iff (h : Sound w) (raw : UInt32) :
    ∃ len es, (length raw).run w = .ok ⟨len, w, es⟩ ∧
      (len = 0 ↔ (w.store 0).contains raw = false ∨
        ∃ r, (w.store 0).get raw = .ok r ∧ r.content.bytes.size = 0) := by
  rcases h.length_cases raw with ⟨hd, es, he⟩ | ⟨r, hl, hr, he⟩
  · exact ⟨_, es, he, by simp [contains_of_dead hd]⟩
  · refine ⟨_, _, he, ?_⟩
    rw [hr.len_eq_zero_iff, get_of_lookup hl]
    simp [contains_of_lookup hl]

theorem Sound.reserve_iff (h : Sound w) (raw n : UInt32) :
    ∃ a w' es, (reserve raw n).run w = .ok ⟨a, w', es⟩ ∧
      (a = 0 ↔ (w.store 0).contains raw = false ∨ w.heap.allocator (n.toNat + 1) = none) ∧
        (a = 0 → w'.cells = w.cells) := by
  rcases h.reserve_cases raw n with
    ⟨hz, w', es, he, hc, -⟩ | ⟨hl, a, w', es, ha, hne, he, -, -⟩
  · exact ⟨0, w', es, he, iff_of_true rfl hz, fun _ => hc⟩
  · exact ⟨a, w', es, he, by simp [hne, hl, ha], fun hz => absurd hz hne⟩

theorem Sound.reserve_lasts (h : Sound w) {o : Outcome catalog Nat}
    (hr : (reserve raw n).run w = .ok o) (hz : o.value ≠ 0) (p : Spares raw o.world w') :
    (∃ es, (address raw).run w' = .ok ⟨o.value, w', es⟩) ∧
      ∃ es, (length raw).run w' = .ok ⟨n, w', es⟩ := by
  rcases h.reserve_cases raw n with
    ⟨-, w₁, es, he, -, -⟩ | ⟨-, a, w₁, es, -, -, he, e, hl⟩
  · rw [hr] at he
    cases he
    exact absurd rfl hz
  · rw [hr] at he
    cases he
    obtain ⟨hs, q, hq, hqa, hql⟩ := p.stands (e.sound h) hl
    have hlen : q.content.len = n := hql.trans (len_blank a n)
    have hadr : q.content.address = a := hqa
    rw [address_live hs.free hq, length_live hs.free hq, hlen, hadr]
    exact ⟨⟨_, rfl⟩, _, rfl⟩

/-- In every state that the other side can bring about, the answers tell exactly this. -/
theorem sentinels_exact (hh : ∀ {k n a : Nat}, 0 < n → heap.answer k n = some a → a ≠ 0)
    (h : Reached heap w) : ExactSentinels w := by
  have hs := h.sound hh
  constructor
  · intro a
    obtain ⟨w', hp, -⟩ := hs.play a
    exact ⟨w', hp⟩
  · exact hs.address_iff
  · exact hs.length_iff
  · exact hs.reserve_iff
  · intro raw n o hr hz w' p
    exact hs.reserve_lasts hr hz p

theorem answer_capped_ne {limit k n a : Nat} (ha : (Heap.capped limit).answer k n = some a) :
    a ≠ 0 := by
  simp only [Heap.capped] at ha
  split at ha
  · cases ha
    omega
  · cases ha

/-- A new record is asked to be longer than any block; it stays as it was. -/
theorem refused_set_leaves_new_record :
    ∃ w, Reached (Heap.capped 8388608) w ∧ (w.store 0).contains 1 = true ∧
      ∃ w' es, (reserve 1 4294967295).run w = .ok ⟨0, w', es⟩ ∧ w'.cells = w.cells := by
  obtain ⟨w, hw⟩ : ∃ w, Act.create.play (World.empty catalog (Heap.capped 8388608)) = .ok w :=
    ⟨_, rfl⟩
  have h : Reached (Heap.capped 8388608) w := .act .create .start hw
  have hl : (w.store 0).contains 1 = true := by
    cases hw
    rfl
  have ha : w.heap.allocator ((4294967295 : UInt32).toNat + 1) = none := by
    cases hw
    rfl
  have e := sentinels_exact (fun _ => answer_capped_ne) h
  obtain ⟨a, w', es, he, hz, hc⟩ := e.reserve_iff 1 4294967295
  obtain rfl : a = 0 := hz.2 (.inr ha)
  exact ⟨w, h, hl, w', es, he, hc rfl⟩

end Record

end HandleBridge
