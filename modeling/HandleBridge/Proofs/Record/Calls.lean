import HandleBridge.Proofs.Record.Memory

/-
  What each export of the record module does to the strings that the other side knows of.

  There is one lemma for each export on a dead handle, which answers zero and leaves the world
  as it was, and one on a live handle. Where an export asks for memory, the answer of the
  allocator decides; `AllocatorSound` is what is relied on when it grants a block.

  Proved:
  * `Keeps.create_cases`: a new record, at a handle that was dead, with the first string.
  * `Keeps.reserve_cases`: room for a string, or nothing.
  * `Keeps.destroy_cases`: one record less, if there was one.
-/

namespace HandleBridge.Record

open Script World

/-- What is relied on of the allocator's next answer: there is room for the first string of a
record, and a block that is granted begins at an address other than zero and shares no byte with
the block of a live record. -/
structure AllocatorSound (w : World catalog) : Prop where
  default_fits : (w.heap.allocator (defaultText.toUTF8.size + 1)).isSome
  address_ne : ∀ {n a : Nat}, 0 < n → w.heap.allocator n = some a → a ≠ 0
  apart : ∀ {n a : Nat}, 0 < n → w.heap.allocator n = some a → ∀ e ∈ (w.store 0).entries,
    a + n ≤ e.2.content.address ∨ e.2.content.address + e.2.content.data.size ≤ a

variable {m : Known} {w : World catalog} {raw n : UInt32} {a : Nat}
  {r : Record} {bytes : ByteArray}

/-- A block that was just granted for a string is apart from those of the live records. -/
theorem AllocatorSound.apart_push (s : AllocatorSound w)
    (ha : w.heap.allocator (bytes.size + 1) = some a)
    (hl : (w.store 0).contents.lookup raw = some r) :
    Buffer.Apart ⟨a, bytes.push 0⟩ r.content := by
  obtain ⟨h, -, he⟩ := Store.lookup_contents_iff_mem_entries.1 hl
  have hp := s.apart (Nat.succ_pos _) ha _ he
  unfold Buffer.Apart
  rw [ByteArray.size_push]
  exact hp

theorem Keeps.ticked (k : Keeps m w) : Keeps m w.ticked :=
  ⟨k.free, k.wellFormed, k.holds, k.apart⟩

/-! ## Dead handles -/

theorem address_dead (hb : w.isBorrowed 0 = false) (hd : raw ∉ (w.store 0).contents) :
    (address raw).run w =
      .ok ⟨0, w, [.callRejected "Record" (.invalidHandle raw)]⟩ := run_withInstance_dead hb hd

theorem length_dead (hb : w.isBorrowed 0 = false) (hd : raw ∉ (w.store 0).contents) :
    (length raw).run w =
      .ok ⟨0, w, [.callRejected "Record" (.invalidHandle raw)]⟩ := run_withInstance_dead hb hd

theorem reserve_dead (n : UInt32) (hb : w.isBorrowed 0 = false)
    (hd : raw ∉ (w.store 0).contents) :
    (reserve raw n).run w =
      .ok ⟨0, w, [.callRejected "Record" (.invalidHandle raw)]⟩ := run_withInstance_dead hb hd

theorem destroy_dead (hb : w.isBorrowed 0 = false) (hd : raw ∉ (w.store 0).contents) :
    (destroy raw).run w =
      .ok ⟨(), w, [.departureIgnored .destroy "Record" (.invalidHandle raw)]⟩ :=
  run_take_dead hb hd

/-! ## Live handles -/

theorem address_live (hb : w.isBorrowed 0 = false)
    (hl : (w.store 0).contents.lookup raw = some r) :
    (address raw).run w = .ok ⟨r.content.address, w, []⟩ :=
  run_withInstance_query (M := catalog) (fun r : Record => toOffset r.content.address) hb hl

theorem length_live (hb : w.isBorrowed 0 = false)
    (hl : (w.store 0).contents.lookup raw = some r) :
    (length raw).run w = .ok ⟨r.content.len, w, []⟩ :=
  run_withInstance_query (M := catalog) (fun r : Record => r.content.len) hb hl

/-- The record with `n` zeros at the address `a`. -/
def blank (a : Nat) (n : UInt32) : Record := ⟨⟨a, (Bytes.zeros n.toNat).push 0⟩⟩

theorem holds_blank (ha : a ≠ 0) (n : UInt32) :
    (blank a n).content.Holds (Bytes.zeros n.toNat) := by
  refine Buffer.holds_push ?_ ha
  rw [Bytes.size_zeros]
  exact Buffer.toNat_le_maxContent n

theorem reserve_of_granted (hb : w.isBorrowed 0 = false)
    (hl : (w.store 0).contents.lookup raw = some r)
    (ha : w.heap.allocator (n.toNat + 1) = some a) :
    ∃ es, (reserve raw n).run w =
      .ok ⟨a, w.ticked.withStore 0 ((w.store 0).set raw (blank a n)), es⟩ := by
  have hr := Buffer.reserve_of_granted (Buffer.toNat_le_maxContent n) ha
  unfold reserve
  rw [run_withInstance_live (M := catalog) (o := ⟨(blank a n, .succeeded (.bare a)),
    w.ticked.setBorrowed 0 true, [.reservingString n.toNat]⟩) hb hl]
  · exact ⟨_, by rw [giveBack_setBorrowed w.ticked raw _ hb]; rfl⟩
  · show run (after _ fun _ => after allocator _) _ = _
    simp only [run]
    rw [heap_setBorrowed, hr]
    rfl

theorem reserve_of_refused (hb : w.isBorrowed 0 = false)
    (hl : (w.store 0).contents.lookup raw = some r)
    (ha : w.heap.allocator (n.toNat + 1) = none) :
    ∃ es, (reserve raw n).run w = .ok ⟨0, w.ticked, es⟩ := by
  have hr := Buffer.reserve_of_refused (Buffer.toNat_le_maxContent n) ha
  unfold reserve
  rw [run_withInstance_live (M := catalog) (o := ⟨(r, .failed (Fault.outOfMemory n.toNat).message),
    w.ticked.setBorrowed 0 true, [.reservingString n.toNat]⟩) hb hl]
  · rw [giveBack_setBorrowed w.ticked raw r hb, store_ticked, Store.set_contents_self hl]
    exact ⟨_, by rw [← store_ticked, withStore_store]; rfl⟩
  · show run (after _ fun _ => after allocator _) _ = _
    simp only [run]
    rw [heap_setBorrowed, hr]
    rfl

theorem destroy_live (hb : w.isBorrowed 0 = false)
    (hl : (w.store 0).contents.lookup raw = some r) :
    ∃ es, (destroy raw).run w = .ok ⟨(), w.withStore 0 ((w.store 0).remove raw).state, es⟩ :=
  run_take_live (M := catalog) hb hl rfl

theorem size_defaultText_le : defaultText.toUTF8.size ≤ maxContent := by decide

theorem make_of_granted (ha : w.heap.allocator (defaultText.toUTF8.size + 1) = some a) :
    make.run w = .ok ⟨⟨⟨a, defaultText.toUTF8.push 0⟩⟩, w.ticked, []⟩ := by
  have hr := Buffer.ofBytes_of_granted size_defaultText_le ha
  show run (after allocator _) w = _
  simp only [run]
  rw [hr]
  rfl

/-! ## What becomes of the strings -/

theorem Keeps.create_cases (k : Keeps m w) (s : AllocatorSound w) :
    (∃ es, create.run w = .ok ⟨invalidHandle, w.ticked.ticked, es⟩) ∨
      ∃ h w' es, create.run w = .ok ⟨Handle.raw h, w', es⟩ ∧ m h.raw = none ∧
        Keeps (Function.update m h.raw (some defaultText.toUTF8)) w' := by
  obtain ⟨a, ha⟩ := Option.isSome_iff_exists.1 s.default_fits
  have hm := make_of_granted ha
  rcases Store.insert_cases k.wellFormed w.ticked.heap.allocator
    (⟨⟨a, defaultText.toUTF8.push 0⟩⟩ : Record) with ⟨h, hok, hi⟩ | ⟨cause, hc⟩
  · right
    obtain ⟨es, he⟩ : ∃ es, create.run w = .ok ⟨h.raw, w.ticked.ticked.withStore 0 _, es⟩ :=
      run_create_ok hm k.free hok
    refine ⟨h, _, es, he, k.eq_none hi.not_mem_contents, ?_⟩
    refine k.ticked.ticked.put (k.wellFormed.of_issues hi) (Store.contents_of_issues hi) ?_ ?_
    · exact Buffer.holds_push size_defaultText_le (s.address_ne (Nat.succ_pos _) ha)
    · exact fun y q _ hq => s.apart_push ha hq
  · left
    exact run_create_error hm k.free hc

/-- Either no room is given and all strings stay, or a live record gets room, which reads as zeros. -/
theorem Keeps.reserve_cases (k : Keeps m w) (s : AllocatorSound w) (raw n : UInt32) :
    (∃ w' es, (reserve raw n).run w = .ok ⟨0, w', es⟩ ∧ Keeps m w') ∨
      ∃ a w' es, (reserve raw n).run w = .ok ⟨a, w', es⟩ ∧ a ≠ 0 ∧
        (w'.store 0).contents.lookup raw = some (blank a n) ∧
        Keeps (Function.update m raw (some (Bytes.zeros n.toNat))) w' := by
  by_cases hd : raw ∈ (w.store 0).contents
  · obtain ⟨r, hl⟩ := Finmap.mem_iff.1 hd
    cases ha : w.heap.allocator (n.toNat + 1) with
    | none =>
      obtain ⟨es, he⟩ := reserve_of_refused k.free hl ha
      exact Or.inl ⟨_, es, he, k.ticked⟩
    | some a =>
      right
      obtain ⟨es, he⟩ := reserve_of_granted k.free hl ha
      have hc := Store.contents_set hl (blank a n)
      have hz : a ≠ 0 := s.address_ne (Nat.succ_pos _) ha
      rw [← Bytes.size_zeros n.toNat] at ha
      refine ⟨a, _, es, he, hz, ?_, ?_⟩
      · rw [store_withStore, hc, Finmap.lookup_insert]
      · refine k.ticked.put (k.wellFormed.after_set hl _) hc (holds_blank hz n) ?_
        exact fun y q _ hq => s.apart_push ha hq
  · exact Or.inl ⟨w, _, reserve_dead n k.free hd, k⟩

theorem Keeps.destroy_cases (k : Keeps m w) (raw : UInt32) :
    ∃ w' es, (destroy raw).run w = .ok ⟨(), w', es⟩ ∧ Keeps (Function.update m raw none) w' := by
  by_cases hd : raw ∈ (w.store 0).contents
  · obtain ⟨r, hl⟩ := Finmap.mem_iff.1 hd
    obtain ⟨es, he⟩ := destroy_live k.free hl
    exact ⟨_, es, he, k.drop (k.wellFormed.after_remove raw) (Store.contents_remove _ raw)⟩
  · refine ⟨w, _, destroy_dead k.free hd, ?_⟩
    rw [← k.eq_none hd, Function.update_eq_self]
    exact k

end HandleBridge.Record
