import HandleBridge.Host

/-
  What a host may be asked once it has loaded a guest.

  A request has an answer, leaves a host and has events. Whatever a guest asks for in the log,
  the host counts: the lines of a guest among the events of any requests are as many as the host
  counts more afterwards.

  Proved:
  * `Request.play_counted`: one request.
  * `counted_run`: any requests.
-/

namespace HandleBridge

/-- The event comes from a line of a guest, whether the line could be read or not. -/
def Event.fromGuest : Event → Bool
  | guestLine _ _ | guestLineDropped _ => true
  | _ => false

theorem Guest.LogRequest.fromGuest_event (r : Guest.LogRequest) : r.event.fromGuest = true := by
  unfold event
  split
  · rfl
  · rfl

theorem Guest.countP_events (logs : List Guest.LogRequest) :
    (logs.map Guest.LogRequest.event).countP Event.fromGuest = logs.length := by
  rw [List.countP_eq_length.2, List.length_map]
  intro e he
  obtain ⟨r, -, rfl⟩ := List.mem_map.1 he
  exact r.fromGuest_event

namespace Host

variable {σ α β : Type} {h : Host σ}

/-- What a host may be asked. -/
inductive Request : Type 1 where
  | create
  | instantiate
  | ptr (raw : UInt32)
  | len (raw : UInt32)
  | reserve (raw n : UInt32)
  | destroy (raw : UInt32)
  | read (raw : UInt32)
  | readString (raw : UInt32)
  | write (raw : UInt32) (bytes : ByteArray)
  | writeString (raw : UInt32) (text : String)
  | memorySize
  | guestLogLines
  | exports
  | fuelLeft

namespace Request

/-- The type of the answer. -/
abbrev Answer : Request → Type
  | create => Except HostFault UInt32
  | instantiate => Except HostFault UInt32
  | ptr _ => Except HostFault UInt32
  | len _ => Except HostFault UInt32
  | reserve _ _ => Except HostFault UInt32
  | destroy _ => Except HostFault Unit
  | read _ => Except HostFault ByteArray
  | readString _ => Except HostFault String
  | write _ _ => Except HostFault Unit
  | writeString _ _ => Except HostFault Unit
  | memorySize => Nat
  | guestLogLines => Nat
  | exports => ExportNames
  | fuelLeft => Option Nat

/-- Plays a request; `left` says how much fuel a guest has left. -/
def play (left : σ → Option Nat) : (r : Request) → Host σ → (r.Answer × Host σ) × List Event
  | create, h => h.create.reply
  | instantiate, h => h.instantiate.reply
  | ptr raw, h => (h.ptr raw).reply
  | len raw, h => (h.len raw).reply
  | reserve raw n, h => (h.reserve raw n).reply
  | destroy raw, h => (h.destroy raw).reply
  | read raw, h => (h.read raw).reply
  | readString raw, h => (h.readString raw).reply
  | write raw bytes, h => (h.write raw bytes).reply
  | writeString raw text, h => (h.writeString raw text).reply
  | memorySize, h => ((h.memorySize, h), [])
  | guestLogLines, h => ((h.guestLogLines, h), [])
  | exports, h => ((h.exports, h), [])
  | fuelLeft, h => ((left h.machine.state, h), [])

end Request

/-- The host after some requests, and their events. -/
def run (left : σ → Option Nat) : List Request → Host σ → Host σ × List Event
  | [], h => (h, [])
  | r :: rs, h =>
    let x := r.play left h
    let y := run left rs x.1.2
    (y.1, x.2 ++ y.2)

/-! ## Counting the lines of the guest -/

/-- The host `k` has counted the lines that the guest asked for in `es`. -/
def Counted (h k : Host σ) (es : List Event) : Prop :=
  k.guestLogLines = h.guestLogLines + es.countP Event.fromGuest

theorem Counted.refl (h : Host σ) : Counted h h [] := rfl

theorem Counted.trans {k l : Host σ} {es es' : List Event} (hk : Counted h k es)
    (hl : Counted k l es') : Counted h l (es ++ es') := by
  unfold Counted at hk hl ⊢
  rw [List.countP_append, hl, hk, Nat.add_assoc]

theorem counted_call (name : String) (code : Guest.Code σ α) (h : Host σ) :
    Counted h (h.call name code).state (h.call name code).events :=
  congrArg (h.guestLogLines + ·) (Guest.countP_events _).symm

theorem counted_andThen {first : Step HostFault (Host σ) α}
    {next : α → Host σ → Step HostFault (Host σ) β} (hf : Counted h first.state first.events)
    (hn : ∀ a k, Counted k (next a k).state (next a k).events) :
    Counted h (andThen first next).state (andThen first next).events := by
  unfold andThen
  split
  · exact hf.trans (hn _ _)
  · exact hf

theorem counted_destroy (raw : UInt32) (h : Host σ) :
    Counted h (h.destroy raw).state (h.destroy raw).events := counted_call _ _ h

theorem counted_instantiate (h : Host σ) :
    Counted h h.instantiate.state h.instantiate.events := by
  refine counted_andThen (counted_call _ _ h) fun handle k => ?_
  split
  · exact .refl k
  · exact .refl k

theorem counted_read (raw : UInt32) (h : Host σ) :
    Counted h (h.read raw).state (h.read raw).events := by
  refine counted_andThen (counted_call _ _ h) fun len k => ?_
  refine counted_andThen (counted_call _ _ k) fun offset k => ?_
  split
  · exact .refl k
  · split
    · exact .refl k
    · exact .refl k

theorem counted_readString (raw : UInt32) (h : Host σ) :
    Counted h (h.readString raw).state (h.readString raw).events := by
  refine counted_andThen (counted_read raw h) fun bytes k => ?_
  split
  · exact .refl k
  · exact .refl k

theorem counted_write (raw : UInt32) (bytes : ByteArray) (h : Host σ) :
    Counted h (h.write raw bytes).state (h.write raw bytes).events := by
  unfold write
  split
  · exact .refl h
  · refine counted_andThen (counted_call _ _ h) fun offset k => ?_
    split
    · exact counted_andThen (counted_call _ _ k) fun old k => .refl k
    · split
      · exact .refl k
      · exact .refl k

theorem Request.play_counted (left : σ → Option Nat) (r : Request) (h : Host σ) :
    Counted h (r.play left h).1.2 (r.play left h).2 := by
  cases r with
  | create => exact counted_call h.exports.create _ h
  | instantiate => exact counted_instantiate h
  | ptr raw => exact counted_call h.exports.ptr _ h
  | len raw => exact counted_call h.exports.len _ h
  | reserve raw n => exact counted_call h.exports.reserve _ h
  | destroy raw => exact counted_destroy raw h
  | read raw => exact counted_read raw h
  | readString raw => exact counted_readString raw h
  | write raw bytes => exact counted_write raw bytes h
  | writeString raw text => exact counted_write raw text.toUTF8 h
  | memorySize => exact .refl h
  | guestLogLines => exact .refl h
  | exports => exact .refl h
  | fuelLeft => exact .refl h

/-- By induction on the requests. -/
theorem counted_run (left : σ → Option Nat) (rs : List Request) (h : Host σ) :
    Counted h (h.run left rs).1 (h.run left rs).2 := by
  induction rs generalizing h with
  | nil => exact .refl h
  | cons r rs ih => exact (r.play_counted left h).trans (ih _)

end Host

end HandleBridge
