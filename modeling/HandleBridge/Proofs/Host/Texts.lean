import HandleBridge.Proofs.Host.RecordGuest
import HandleBridge.Proofs.Text.Utf8

/-
  Texts in the reference guest.

  The guest keeps bytes and knows nothing of texts. A text goes in as its UTF-8 form, and what
  comes out is read as UTF-8, so a text that was written is read as it was, whatever its
  characters. Bytes that no text has as its form may be written too; they are no text when they
  are read, and nothing else is.

  Proved:
  * `Shows.writeString_iff`: which texts are taken.
  * `Shows.readString_written`: a text that was taken is read.
  * `Shows.readString_live`, `Shows.readString_dead`: what is read as text in any state.
  * `texts_round_trip`: all of it, after any calls.
-/

namespace HandleBridge.Host

open Text.Utf8 (WellFormed decode?)

variable {s : Shelf} {h : Host Guest.Record.State} {raw : UInt32} {bytes : ByteArray}
  {text : String}

/-- A text is taken if its handle is live and there is room for it and a nul. -/
theorem Shows.writeString_iff (k : Shows s h) (short : text.utf8ByteSize < 2147483648) :
    (h.writeString raw text).result = .ok () ↔
      s.content raw ≠ none ∧ text.utf8ByteSize < s.room := by
  have short' : text.toUTF8.size < 2147483648 := short
  unfold writeString
  cases hc : s.content raw with
  | none =>
    rw [k.write_dead hc short']
    exact ⟨fun e => (nomatch e), fun e => absurd rfl e.1⟩
  | some old =>
    rcases Nat.lt_or_ge text.utf8ByteSize s.room with hr | hr
    · exact ⟨fun _ => ⟨Option.some_ne_none _, hr⟩, fun _ => (k.write_made hc short' hr).1⟩
    · rw [k.write_full hc short' hr]
      exact ⟨fun e => (nomatch e), fun e => absurd e.2 (Nat.not_lt.2 hr)⟩

/-- The bytes of a live handle are read as text if they are the form of one. -/
theorem Shows.readString_live (k : Shows s h) (hb : s.content raw = some bytes) :
    (h.readString raw).result = (decode? bytes).elim (.error .notText) .ok := by
  obtain ⟨es, he⟩ := k.read_live hb
  unfold readString
  rw [he, andThen, Step.ok]
  dsimp only
  cases decode? bytes with
  | none => rfl
  | some text => rfl

theorem Shows.readString_dead (k : Shows s h) (hn : s.content raw = none) :
    (h.readString raw).result = .error (.boundary (.invalidHandle raw)) := by
  unfold readString
  rw [k.read_dead hn]
  rfl

theorem Shows.readString_written (k : Shows s h) (short : text.utf8ByteSize < 2147483648)
    (hw : (h.writeString raw text).result = .ok ()) :
    ((h.writeString raw text).state.readString raw).result = .ok text := by
  obtain ⟨hc, hr⟩ := (k.writeString_iff short).1 hw
  obtain ⟨old, ho⟩ := Option.ne_none_iff_exists'.1 hc
  have hk : Shows (s.put raw text.toUTF8) (h.writeString raw text).state :=
    (k.write_made ho short hr).2
  have hput : (s.put raw text.toUTF8).content raw = some text.toUTF8 := Function.update_self ..
  exact (hk.readString_live hput).trans (by rw [Text.Utf8.decode?_toUTF8]; rfl)

/-- How texts are written and read when the shelf is `s`. -/
structure ReadsTexts (s : Shelf) (h : Host Guest.Record.State) : Prop where
  taken_iff : ∀ {raw text}, text.utf8ByteSize < 2147483648 →
    ((h.writeString raw text).result = .ok () ↔
      s.content raw ≠ none ∧ text.utf8ByteSize < s.room)
  round_trip : ∀ {raw text}, text.utf8ByteSize < 2147483648 →
    (h.writeString raw text).result = .ok () →
      ((h.writeString raw text).state.readString raw).result = .ok text
  /-- What is on the shelf is what is read as bytes. -/
  content_eq : ∀ {raw bytes}, s.content raw = some bytes ↔ (h.read raw).result = .ok bytes
  read_iff : ∀ {raw bytes}, s.content raw = some bytes →
    ((∃ text, (h.readString raw).result = .ok text) ↔ WellFormed bytes.data.toList)
  read_form : ∀ {raw bytes text}, s.content raw = some bytes →
    (h.readString raw).result = .ok text → text.toUTF8 = bytes
  not_text : ∀ {raw bytes}, s.content raw = some bytes → ¬ WellFormed bytes.data.toList →
    (h.readString raw).result = .error .notText
  dead : ∀ {raw}, s.content raw = none →
    (h.readString raw).result = .error (.boundary (.invalidHandle raw))

theorem Shows.content_iff (k : Shows s h) :
    s.content raw = some bytes ↔ (h.read raw).result = .ok bytes := by
  cases hc : s.content raw with
  | none =>
    rw [k.read_dead hc]
    exact ⟨fun e => (nomatch e), fun e => (nomatch e)⟩
  | some old =>
    obtain ⟨es, he⟩ := k.read_live hc
    rw [he]
    exact ⟨fun e => congrArg Except.ok (Option.some.inj e),
      fun e => congrArg some (Except.ok.inj e)⟩

theorem Shows.readsTexts (k : Shows s h) : ReadsTexts s h where
  taken_iff := k.writeString_iff
  round_trip := k.readString_written
  content_eq := k.content_iff
  read_iff := by
    intro raw bytes hb
    rw [k.readString_live hb, ← Text.Utf8.decode?_isSome_iff]
    cases decode? bytes with
    | none => exact ⟨fun ⟨_, e⟩ => (nomatch e), fun e => (nomatch e)⟩
    | some text => exact ⟨fun _ => rfl, fun _ => ⟨text, rfl⟩⟩
  read_form := by
    intro raw bytes text hb hr
    rw [k.readString_live hb] at hr
    cases hd : decode? bytes with
    | none =>
      rw [hd] at hr
      cases hr
    | some t =>
      rw [hd] at hr
      cases hr
      exact Text.Utf8.toUTF8_of_decode? hd
  not_text := by
    intro raw bytes hb hn
    have hnone := Option.not_isSome_iff_eq_none.1 (mt Text.Utf8.decode?_isSome_iff.1 hn)
    rw [k.readString_live hb, hnone]
    rfl
  dead := k.readString_dead

/-- Whatever is called before, a text that is written is read as it was, and what is read as text
are exactly the well-formed bytes. -/
theorem texts_round_trip (level : UInt32) : ∃ h,
    (Host.load (Guest.Record.module .default) .default level).result = .ok h ∧
      ∀ calls, ReadsTexts (Shelf.empty.after calls) (h.after calls) :=
  ⟨_, load_recordGuest level, fun calls => ((shows_empty level).after calls).readsTexts⟩

/-- An overlong form of the character zero. -/
def overlong : ByteArray := ⟨#[0xc0, 0x80]⟩

theorem texts_round_trip_mixed : ∃ h,
    (Host.load (Guest.Record.module .default) .default 0).result = .ok h ∧
      (((h.after [.create]).writeString 1 "a\x00é𝄞").state.readString 1).result =
        .ok "a\x00é𝄞" ∧
      ((h.after [.create, .write 1 overlong (by decide)]).readString 1).result =
        .error .notText := by
  obtain ⟨h, hl, ht⟩ := texts_round_trip 0
  have hc : (Shelf.empty.after [.create, .write 1 overlong (by decide)]).content 1 =
      some overlong := by decide +kernel
  have short : "a\x00é𝄞".utf8ByteSize < 2147483648 := by decide +kernel
  refine ⟨h, hl, (ht [.create]).round_trip short (((ht [.create]).taken_iff short).2 ?_),
    (ht [.create, .write 1 overlong (by decide)]).not_text hc ?_⟩
  · decide +kernel
  · rw [← Text.Utf8.decode?_isSome_iff]
    decide +kernel

end HandleBridge.Host
