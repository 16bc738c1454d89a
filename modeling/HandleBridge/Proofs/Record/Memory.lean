import HandleBridge.Record
import HandleBridge.Proofs.Buffer
import HandleBridge.Proofs.Export.Calls

/-
  The memory of the records, as the other side sees it: by address.

  The other side never names a record when it copies. It copies to or from an address, and what
  it reaches is the record in whose block that address lies. `Keeps` says which string every
  live record has and that the blocks of two of them share no byte; so an address that a call
  answered leads to the record it was asked of and to no other.

  Proved:
  * `Keeps.peek_eq`: a copy from the address of a record is its string.
  * `Keeps.after_poke`: a copy to that address changes the string of that record and no other.
-/

namespace HandleBridge

namespace Record

/-- What the other side knows of the live handles: the string of each. -/
abbrev Known := UInt32 → Option ByteArray

/-- What `m` says of every handle is so in `w`: a live record has the string that `m` gives its
handle, and no other handle has one. The blocks of two records share no byte. -/
structure Keeps (m : Known) (w : World catalog) : Prop where
  free : w.isBorrowed 0 = false
  wellFormed : (w.store 0).WellFormed
  holds : ∀ raw, Option.Rel (fun r b => r.content.Holds b) ((w.store 0).contents.lookup raw) (m raw)
  apart : ∀ {x y : UInt32} {r q : Record}, (w.store 0).contents.lookup x = some r →
    (w.store 0).contents.lookup y = some q → x ≠ y → r.content.Apart q.content

variable {m : Known} {w : World catalog} {raw : UInt32} {r : Record}
  {bytes : ByteArray} {t : Store Record}

theorem Keeps.exists_record (k : Keeps m w) (hm : m raw = some bytes) :
    ∃ r, (w.store 0).contents.lookup raw = some r ∧ r.content.Holds bytes := by
  have hr := k.holds raw
  rw [hm] at hr
  cases hl : (w.store 0).contents.lookup raw with
  | none =>
    rw [hl] at hr
    cases hr
  | some r =>
    rw [hl] at hr
    cases hr with
    | some h => exact ⟨r, rfl, h⟩

theorem Keeps.exists_bytes (k : Keeps m w) (hl : (w.store 0).contents.lookup raw = some r) :
    ∃ bytes, m raw = some bytes ∧ r.content.Holds bytes := by
  have hr := k.holds raw
  rw [hl] at hr
  cases hm : m raw with
  | none =>
    rw [hm] at hr
    cases hr
  | some bytes =>
    rw [hm] at hr
    cases hr with
    | some h => exact ⟨bytes, rfl, h⟩

theorem Keeps.mem_iff (k : Keeps m w) : raw ∈ (w.store 0).contents ↔ (m raw).isSome := by
  rw [Finmap.mem_iff, Option.isSome_iff_exists]
  constructor
  · rintro ⟨r, hl⟩
    obtain ⟨bytes, hm, -⟩ := k.exists_bytes hl
    exact ⟨bytes, hm⟩
  · rintro ⟨bytes, hm⟩
    obtain ⟨r, hl, -⟩ := k.exists_record hm
    exact ⟨r, hl⟩

theorem Keeps.not_mem (k : Keeps m w) (hm : m raw = none) : raw ∉ (w.store 0).contents := by
  rw [k.mem_iff, hm]
  exact Bool.false_ne_true

theorem Keeps.eq_none (k : Keeps m w) (hd : raw ∉ (w.store 0).contents) : m raw = none := by
  rw [← Option.not_isSome_iff_eq_none, ← k.mem_iff]
  exact hd

/-- One record gets a block of its own with a string. -/
theorem Keeps.put (k : Keeps m w) (ht : t.WellFormed)
    (hc : t.contents = (w.store 0).contents.insert raw r) (hr : r.content.Holds bytes)
    (ha : ∀ y q, y ≠ raw → (w.store 0).contents.lookup y = some q → r.content.Apart q.content) :
    Keeps (Function.update m raw (some bytes)) (w.withStore 0 t) where
  free := by
    rw [World.isBorrowed_withStore]
    exact k.free
  wellFormed := by
    rw [World.store_withStore]
    exact ht
  holds x := by
    rw [World.store_withStore, hc]
    by_cases hx : x = raw
    · rw [hx, Finmap.lookup_insert, Function.update_self]
      exact .some hr
    · rw [Finmap.lookup_insert_of_ne _ hx, Function.update_of_ne hx]
      exact k.holds x
  apart := by
    intro x y p q hp hq hxy
    rw [World.store_withStore, hc] at hp hq
    by_cases hx : x = raw
    · have hy : y ≠ raw := fun e => hxy (hx.trans e.symm)
      rw [hx, Finmap.lookup_insert] at hp
      rw [Finmap.lookup_insert_of_ne _ hy] at hq
      cases hp
      exact ha y q hy hq
    · rw [Finmap.lookup_insert_of_ne _ hx] at hp
      by_cases hy : y = raw
      · rw [hy, Finmap.lookup_insert] at hq
        cases hq
        exact (ha x p hx hp).symm
      · rw [Finmap.lookup_insert_of_ne _ hy] at hq
        exact k.apart hp hq hxy

/-- One record goes. -/
theorem Keeps.drop (k : Keeps m w) (ht : t.WellFormed)
    (hc : t.contents = (w.store 0).contents.erase raw) :
    Keeps (Function.update m raw none) (w.withStore 0 t) where
  free := by
    rw [World.isBorrowed_withStore]
    exact k.free
  wellFormed := by
    rw [World.store_withStore]
    exact ht
  holds x := by
    rw [World.store_withStore, hc]
    by_cases hx : x = raw
    · rw [hx, Finmap.lookup_erase, Function.update_self]
      exact .none
    · rw [Finmap.lookup_erase_ne hx, Function.update_of_ne hx]
      exact k.holds x
  apart := by
    have hl : ∀ x p, ((w.store 0).contents.erase raw).lookup x = some p →
        (w.store 0).contents.lookup x = some p := by
      intro x p hp
      have hx : x ≠ raw := by
        intro e
        rw [e, Finmap.lookup_erase] at hp
        cases hp
      rwa [Finmap.lookup_erase_ne hx] at hp
    intro x y p q hp hq hxy
    rw [World.store_withStore, hc] at hp hq
    exact k.apart (hl x p hp) (hl y q hq) hxy

/-! ## Copies from and to an address -/

theorem Keeps.holder_eq (k : Keeps m w) (hl : (w.store 0).contents.lookup raw = some r) :
    ∃ h, h.raw = raw ∧ holder w r.content.address = some (h, r) := by
  obtain ⟨h, hh, he⟩ := Store.lookup_contents_iff_mem_entries.1 hl
  obtain ⟨bytes, -, hr⟩ := k.exists_bytes hl
  have hs : 0 < r.content.data.size := by
    rw [hr.size_eq]
    exact Nat.succ_pos _
  have hf : (holder w r.content.address).isSome :=
    List.find?_isSome.2 ⟨(h, r), he, Buffer.covers_address hs⟩
  obtain ⟨⟨h', q⟩, e⟩ := Option.isSome_iff_exists.1 hf
  have hm := List.mem_of_find?_eq_some e
  have hq := Store.lookup_contents_iff_mem_entries.2 ⟨h', rfl, hm⟩
  -- a record at another handle lies apart, so it cannot be the one that was found
  have hx : h'.raw = raw := by
    by_contra hne
    have ha := (k.apart hl hq (Ne.symm hne)).not_covers hs
    have hc := List.find?_some e
    rw [ha] at hc
    exact Bool.false_ne_true hc
  rw [hx, hl] at hq
  cases hq
  exact ⟨h', hx, e⟩

theorem Keeps.peek_eq (k : Keeps m w) (hl : (w.store 0).contents.lookup raw = some r)
    (hm : m raw = some bytes) : peek w r.content.address bytes.size = some bytes := by
  obtain ⟨h, -, he⟩ := k.holder_eq hl
  obtain ⟨b, hb, hr⟩ := k.exists_bytes hl
  rw [hm] at hb
  cases hb
  unfold peek
  rw [he, Option.map_some, Nat.sub_self, Nat.zero_add]
  exact congrArg some hr.extract_eq

theorem edit_eq (f : Record → Record) (hl : (w.store 0).contents.lookup raw = some r) :
    w.edit 0 raw f = w.withStore 0 ((w.store 0).set raw (f r)) := by
  obtain ⟨h, e⟩ := Store.lookup_contents_eq_some_iff.1 hl
  unfold World.edit
  rw [World.onStore_eq, Store.update_ok e]
  rfl

/-- The record at an address is edited as if it had been named. -/
theorem Keeps.poke_eq (k : Keeps m w) (hl : (w.store 0).contents.lookup raw = some r)
    (bytes : ByteArray) :
    poke w r.content.address bytes = w.edit 0 raw fun r => ⟨r.content.write 0 bytes⟩ := by
  obtain ⟨h, hh, he⟩ := k.holder_eq hl
  unfold poke
  rw [he]
  dsimp only
  rw [hh, edit_eq _ hl, edit_eq _ hl, Nat.sub_self]

theorem Keeps.after_poke (k : Keeps m w) {old : ByteArray}
    (hl : (w.store 0).contents.lookup raw = some r) (hm : m raw = some old)
    (hs : bytes.size = old.size) :
    Keeps (Function.update m raw (some bytes)) (poke w r.content.address bytes) := by
  obtain ⟨b, hb, hr⟩ := k.exists_bytes hl
  rw [hm] at hb
  cases hb
  have hw := hr.write hs
  have hz : (r.content.write 0 bytes).data.size = r.content.data.size := by
    rw [hw.size_eq, hr.size_eq, hs]
  rw [k.poke_eq hl, edit_eq _ hl]
  refine k.put (k.wellFormed.after_set hl _) (Store.contents_set hl _) hw ?_
  intro y q hy hq
  have ha := k.apart hl hq (Ne.symm hy)
  unfold Buffer.Apart at ha ⊢
  rw [hz]
  exact ha

end Record

end HandleBridge
