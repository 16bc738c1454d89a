import HandleBridge.Host.Load
import HandleBridge.LogBridge
import HandleBridge.Guest.Constant
import HandleBridge.Guest.Record
import HandleBridge.Proofs.Host.Copies
import HandleBridge.Proofs.Host.Requests
import HandleBridge.Proofs.Text.Utf8
import Mathlib.Data.List.Infix

/-
  From a record in the guest to a line in the host's log.

  The guest sends a record if its level is let through, and the level is that of the last call
  that set one (`enabled`). It sends a number for the level and the bytes of the line. The host
  takes the bytes out of the guest's memory and makes a line of them, at the level that the
  number stands for; numbers and regions that no logger of a guest would send have their own
  lines. The host counts all of them.

  A guest whose memory the host does not know is not heard: it may ask for lines while it is
  started, but there are none, and it is not loaded.

  Proved:
  * `send_eq`: which records are sent, and in which form.
  * `event_of_reaches`: what is sent arrives as it was.
  * `event_eq`: any request of a guest for a line.
  * `filter_load`, `of_load_ok`, `load_unheard`: what a guest asks for while it is loaded.
  * `guest_lines_arrive`: all of it.
-/

namespace HandleBridge

/-! ## The guest's half -/

/-- What a guest does with its log. -/
inductive LogOp where
  /-- The host sets the level. -/
  | init (level : UInt32)
  | record (r : LogRecord)

namespace LogOp

/-- The level that the operation sets. -/
def level? : LogOp → Option UInt32
  | init level => some level
  | record _ => none

/-- The level after some operations: that of the last one that set it, and at first zero. -/
def inForce (past : List LogOp) : UInt32 := (past.filterMap level?).getLastD 0

/-- The record of an operation, if its level is let through after `past`. -/
def enabled? : LogOp × List LogOp → Option LogRecord
  | (record r, past) => if r.level.rank ≤ (inForce past).toNat then some r else none
  | (init _, _) => none

/-- The records of some operations that are let through, each at the level that is then in force. -/
def enabled (ops : List LogOp) : List LogRecord := (ops.zip ops.inits).filterMap enabled?

/-- The calls that the operations lead to, from a filter on. -/
def send : LogFilter → List LogOp → List LogCall
  | _, [] => []
  | _, init level :: ops => send (.ofWord level) ops
  | f, record r :: ops => f.forward r ++ send f ops

end LogOp

/-- The call for a record: the number of its level, and its line. -/
def LogRecord.call (r : LogRecord) : LogCall :=
  ⟨UInt32.ofNat r.level.rank, (r.target ++ ": " ++ r.message).toUTF8⟩

namespace LogOp

theorem forward_ofWord (level : UInt32) (r : LogRecord) :
    (LogFilter.ofWord level).forward r =
      if r.level.rank ≤ level.toNat then [r.call] else [] := by
  unfold LogFilter.forward
  rw [LogFilter.passes_ofWord]
  simp only [decide_eq_true_eq]
  rfl

theorem inForce_init (past : List LogOp) (level : UInt32) :
    inForce (past ++ [init level]) = level := by
  unfold inForce
  rw [List.filterMap_append]
  exact List.getLastD_concat

theorem inForce_record (past : List LogOp) (r : LogRecord) :
    inForce (past ++ [record r]) = inForce past := by
  unfold inForce
  rw [List.filterMap_append]
  exact congrArg (List.getLastD · 0) (List.append_nil _)

/-- By induction on the operations; the past is carried along. -/
theorem send_after (past ops : List LogOp) :
    send (.ofWord (inForce past)) ops =
      ((ops.zip (ops.inits.map (past ++ ·))).filterMap enabled?).map LogRecord.call := by
  induction ops generalizing past with
  | nil => rfl
  | cons op ops ih =>
    have hinits : (op :: ops).inits.map (past ++ ·) =
        past :: ops.inits.map (past ++ [op] ++ ·) := by
      rw [List.inits_cons, List.map_cons, List.append_nil, List.map_map]
      congr 1
      refine List.map_congr_left fun l _ => ?_
      exact (List.append_assoc past [op] l).symm
    rw [hinits, List.zip_cons_cons]
    cases op with
    | init level =>
      have h := ih (past ++ [init level])
      rw [inForce_init] at h
      exact h
    | record r =>
      have h := ih (past ++ [record r])
      rw [inForce_record] at h
      rw [send, h, forward_ofWord]
      by_cases hr : r.level.rank ≤ (inForce past).toNat
      · have he : enabled? (record r, past) = some r := if_pos hr
        rw [if_pos hr, List.filterMap_cons_some he]
        rfl
      · have he : enabled? (record r, past) = none := if_neg hr
        rw [if_neg hr, List.filterMap_cons_none he]
        rfl

/-- Exactly the records that are let through are sent, in their order. -/
theorem send_eq (ops : List LogOp) : send .off ops = (enabled ops).map LogRecord.call := by
  have h := send_after [] ops
  rw [show ops.inits.map ([] ++ ·) = ops.inits from List.map_id _] at h
  exact h

end LogOp

/-! ## The host's half -/

open Guest (LogRequest)

/-- The bytes of a call stand where the request says, and the request says the same of level and
length. -/
structure LogCall.Reaches (c : LogCall) (q : LogRequest) : Prop where
  level_eq : q.level = c.level
  len_eq : q.len = c.len
  placed : Bytes.StandAt q.memory q.ptr.toNat c.bytes

/-- The bytes that a request names. -/
def Guest.LogRequest.bytes (q : LogRequest) : ByteArray :=
  q.memory.extract q.ptr.toNat (q.ptr.toNat + q.len.toNat)

/-- Any request makes one line: the text of its bytes, or a warning that they lie outside. -/
theorem event_eq (q : LogRequest) : q.event =
    if q.ptr.toNat + q.len.toNat ≤ q.memory.size then
      .guestLine (Level.ofRank q.level.toNat) (Text.Utf8.decodeLossy q.bytes)
    else .guestLineDropped (.outOfBounds q.ptr.toNat q.len.toNat q.memory.size) := by
  unfold Guest.LogRequest.event
  rw [readRegion_words]
  by_cases h : q.ptr.toNat + q.len.toNat ≤ q.memory.size
  · rw [if_pos h, if_pos h]
    rfl
  · rw [if_neg h, if_neg h]

/-- The line of a record arrives with its level and its text. -/
theorem event_of_reaches {r : LogRecord} {q : LogRequest}
    (hr : (r.target ++ ": " ++ r.message).utf8ByteSize < UInt32.size) (h : r.call.Reaches q) :
    q.event = .guestLine r.level (r.target ++ ": " ++ r.message) := by
  obtain ⟨hlevel, hlen, hplaced⟩ := h
  have hsize : q.len.toNat = (r.target ++ ": " ++ r.message).toUTF8.size := by
    rw [hlen]
    exact UInt32.toNat_ofNat_of_lt' hr
  have hbytes : q.bytes = (r.target ++ ": " ++ r.message).toUTF8 := by
    rw [Guest.LogRequest.bytes, hsize]
    exact hplaced.eq_extract.symm
  have hrank : Level.ofRank q.level.toNat = r.level := by
    rw [hlevel, LogRecord.call, Level.toNat_rank, Level.ofRank_rank]
  rw [event_eq, if_pos (by rw [hsize]; exact hplaced.1), hrank, hbytes,
    Text.Utf8.decodeLossy_toUTF8]

theorem events_of_reaches {rs : List LogRecord} {qs : List LogRequest}
    (hr : ∀ r ∈ rs, (r.target ++ ": " ++ r.message).utf8ByteSize < UInt32.size)
    (h : List.Forall₂ LogCall.Reaches (rs.map LogRecord.call) qs) :
    qs.map LogRequest.event =
      rs.map fun r => .guestLine r.level (r.target ++ ": " ++ r.message) := by
  induction rs generalizing qs with
  | nil =>
    cases h
    rfl
  | cons r rs ih =>
    cases h with
    | @cons _ q _ qs hq hqs =>
      rw [List.map_cons, List.map_cons, event_of_reaches (hr r List.mem_cons_self) hq,
        ih (fun r hr' => hr r (List.mem_cons_of_mem _ hr')) hqs]

namespace Host

variable {σ α : Type} {m : Guest.Module σ} {c : Config} {level : UInt32} {k : Host σ}

/-- What the guest does when it is told the level of the log. Without a function for that it does
nothing. -/
def initReply (m : Guest.Module σ) (level : UInt32) : Guest.Code σ Unit :=
  match m.command? LoadFault.initLogName with
  | none => fun machine => ⟨.ok (), machine, []⟩
  | some code => code level

theorem initLog_eq (m : Guest.Module σ) (level : UInt32) (h : Host σ) :
    initLog m level h = ⟨(initReply m level h.machine).result.mapError .initLogTrapped,
      ⟨h.guest, h.exports, (initReply m level h.machine).machine,
        h.guestLogLines + (initReply m level h.machine).logs.length⟩,
      (initReply m level h.machine).logs.map LogRequest.event⟩ := by
  unfold initLog initReply
  cases m.command? LoadFault.initLogName with
  | none => rfl
  | some code => rfl

/-- What a guest asks for while it is loaded: first when it starts, then when it is told the level
of the log, if it comes to that. -/
def asked (m : Guest.Module σ) (c : Config) (level : UInt32) : List LogRequest :=
  let start := m.start c.maxMemoryBytes c.fuel
  start.logs ++
    match start.result, m.resolve c.exports with
    | .ok machine, .ok _ => (initReply m level machine).logs
    | _, _ => []

theorem filter_fromGuest (logs : List LogRequest) :
    (logs.map LogRequest.event).filter Event.fromGuest = logs.map LogRequest.event := by
  refine List.filter_eq_self.2 fun e he => ?_
  obtain ⟨q, -, rfl⟩ := List.mem_map.1 he
  exact q.fromGuest_event

/-- All that a guest asks for while it is loaded makes a line, and no other line comes from it. -/
theorem filter_load (hm : m.hasMemory c.exports.memory = true) (level : UInt32) :
    (load m c level).events.filter Event.fromGuest = (asked m c level).map LogRequest.event := by
  unfold load asked
  dsimp only
  rw [hm, List.map_append]
  cases (m.start c.maxMemoryBytes c.fuel).result with
  | error cause => exact (filter_fromGuest _).trans (List.append_nil _).symm
  | ok machine =>
    cases m.resolve c.exports with
    | error cause => exact (filter_fromGuest _).trans (List.append_nil _).symm
    | ok guest =>
      simp only [initLog_eq, Bool.not_true, Bool.false_eq_true, if_false, if_true]
      cases (initReply m level machine).result with
      | error trap =>
        dsimp only [Except.mapError]
        rw [List.filter_append, filter_fromGuest, filter_fromGuest]
      | ok _ =>
        dsimp only [Except.mapError]
        rw [List.filter_append, List.filter_append, filter_fromGuest, filter_fromGuest]
        exact List.append_nil _

/-- The host has counted them, and the machine is as the guest left it. -/
theorem of_load_ok (h : (load m c level).result = .ok k) :
    k.guestLogLines = (asked m c level).length ∧
      ∃ machine, (m.start c.maxMemoryBytes c.fuel).result = .ok machine ∧
        k.machine = (initReply m level machine).machine := by
  unfold load at h
  unfold asked
  dsimp only at h ⊢
  cases hs : (m.start c.maxMemoryBytes c.fuel).result with
  | error cause =>
    rw [hs] at h
    cases h
  | ok machine =>
    rw [hs] at h
    cases hm : m.hasMemory c.exports.memory with
    | false =>
      rw [hm] at h
      cases h
    | true =>
      cases hr : m.resolve c.exports with
      | error cause =>
        rw [hm, hr] at h
        cases h
      | ok guest =>
        simp only [initLog_eq, hm, hr, Bool.not_true, Bool.false_eq_true, if_false, if_true] at h
        cases ht : (initReply m level machine).result with
        | error trap =>
          rw [ht] at h
          cases h
        | ok _ =>
          rw [ht] at h
          cases h
          exact ⟨List.length_append.symm, machine, rfl, rfl⟩

/-- Without the memory nothing is heard, and nothing is loaded. -/
theorem load_unheard (hm : m.hasMemory c.exports.memory = false) (level : UInt32) :
    (load m c level).events = [] ∧ ∃ cause, (load m c level).result = .error cause := by
  unfold load
  dsimp only
  rw [hm]
  cases (m.start c.maxMemoryBytes c.fuel).result with
  | error cause => exact ⟨rfl, _, rfl⟩
  | ok machine => exact ⟨rfl, _, rfl⟩

end Host

/-- Whatever a guest's logger lets through arrives in the host's log as it was. Whatever else a
guest asks for makes one line there too, and is counted, and changes nothing in the guest; only a
guest without the memory that the host expects is not heard, and it is not loaded. -/
theorem guest_lines_arrive :
    (∀ ops, LogOp.send .off ops = (LogOp.enabled ops).map LogRecord.call) ∧
      (∀ ops qs,
        (∀ r ∈ LogOp.enabled ops, (r.target ++ ": " ++ r.message).utf8ByteSize < UInt32.size) →
          List.Forall₂ LogCall.Reaches (LogOp.send .off ops) qs →
            qs.map LogRequest.event = (LogOp.enabled ops).map fun r =>
              .guestLine r.level (r.target ++ ": " ++ r.message)) ∧
      (∀ q : LogRequest, q.event =
        if q.ptr.toNat + q.len.toNat ≤ q.memory.size then
          .guestLine (Level.ofRank q.level.toNat) (Text.Utf8.decodeLossy q.bytes)
        else .guestLineDropped (.outOfBounds q.ptr.toNat q.len.toNat q.memory.size)) ∧
      (∀ level text, (Event.guestLine level text).level = level ∧
        (Event.guestLine level text).message = text) ∧
      (∀ cause, (Event.guestLineDropped cause).level = .warn) ∧
      (∀ {σ α : Type} (h : Host σ) name (code : Guest.Code σ α),
        (h.call name code).events = (code h.machine).logs.map LogRequest.event ∧
          (h.call name code).state.machine = (code h.machine).machine ∧
          (h.call name code).state.guestLogLines =
            h.guestLogLines + (code h.machine).logs.length) ∧
      (∀ {σ : Type} (m : Guest.Module σ) c level, m.hasMemory c.exports.memory = true →
        (Host.load m c level).events.filter Event.fromGuest =
          (Host.asked m c level).map LogRequest.event) ∧
      (∀ {σ : Type} (m : Guest.Module σ) c level, m.hasMemory c.exports.memory = false →
        (Host.load m c level).events = [] ∧
          ∃ cause, (Host.load m c level).result = .error cause) ∧
      ∀ {σ : Type} (m : Guest.Module σ) c level h, (Host.load m c level).result = .ok h →
        (h.guestLogLines = (Host.asked m c level).length ∧
          ∃ machine, (m.start c.maxMemoryBytes c.fuel).result = .ok machine ∧
            h.machine = (Host.initReply m level machine).machine) ∧
        ∀ left rs, (h.run left rs).1.guestLogLines =
          h.guestLogLines + (h.run left rs).2.countP Event.fromGuest := by
  refine ⟨LogOp.send_eq, fun ops qs hr hq => ?_, event_eq, fun level text => ⟨rfl, rfl⟩,
    fun cause => rfl, fun h name code => ⟨rfl, rfl, rfl⟩,
    fun m c level hm => Host.filter_load hm level, fun m c level hm => Host.load_unheard hm level,
    fun m c level h hh => ⟨Host.of_load_ok hh, fun left rs => Host.counted_run left rs h⟩⟩
  rw [LogOp.send_eq] at hq
  exact events_of_reaches hr hq

/-! ## One line, and one that is not heard -/

/-- A record before there is a level, one below it, one that is let through, and one after the log
was shut again. -/
def fewOps : List LogOp :=
  [.record ⟨.error, "app", "early"⟩, .init 3, .record ⟨.debug, "app", "detail"⟩,
    .record ⟨.info, "app", "hi"⟩, .init 0, .record ⟨.error, "app", "late"⟩]

/-- The line in the midst of other bytes. -/
def hiRequest : LogRequest := ⟨3, 1, 7, "-app: hi-".toUTF8⟩

theorem reaches_hiRequest : LogCall.Reaches ⟨3, "app: hi".toUTF8⟩ hiRequest where
  level_eq := rfl
  len_eq := by decide +kernel
  placed := ⟨by decide +kernel, by decide +kernel⟩

theorem guest_lines_arrive_hi :
    LogOp.send .off fewOps = [⟨3, "app: hi".toUTF8⟩] ∧
      [hiRequest].map LogRequest.event = [.guestLine .info "app: hi"] ∧
      (Host.load (Guest.Record.module .default) .default 3).events.filter Event.fromGuest = [] ∧
      (Host.load Guest.emptyModule .default 3).events = [] ∧
      ∃ h, (Host.load (Guest.Record.module .default) .default 3).result = .ok h ∧
        h.guestLogLines = 0 := by
  obtain ⟨hsend, hlines, -, -, -, -, hheard, hunheard, hloaded⟩ := guest_lines_arrive
  have hs : LogOp.send .off fewOps = [⟨3, "app: hi".toUTF8⟩] := hsend fewOps
  refine ⟨hs, ?_, hheard (Guest.Record.module .default) .default 3 rfl,
    (hunheard Guest.emptyModule .default 3 rfl).1, _, rfl,
    (hloaded (Guest.Record.module .default) .default 3 _ rfl).1.1⟩
  refine hlines fewOps [hiRequest] ?_ ?_
  · intro r hr
    obtain rfl : r = ⟨.info, "app", "hi"⟩ := List.mem_singleton.1 hr
    decide +kernel
  · rw [hs]
    exact .cons reaches_hiRequest .nil

/-- A guest that asks for a line when it is started, and keeps its memory to itself. -/
def silentGuest : Guest.Constant.Description where
  memory := none
  data := [(0, "hi".toUTF8)]
  start := some { logs := [(3, 0, 2)] }

/-- Its memory when it asks. -/
def silentMemory : ByteArray := Bytes.overwrite (Bytes.zeros 65536) 0 "hi".toUTF8

theorem load_silentGuest :
    Guest.Constant.Description.load (Bytes.zeros (silentGuest.pages * Guest.pageBytes))
      silentGuest.data = some silentMemory := by
  refine if_pos ?_
  rw [Bytes.size_zeros]
  decide +kernel

theorem size_silentMemory : silentMemory.size = 65536 := by
  rw [silentMemory, Bytes.size_overwrite, Bytes.size_zeros]
  rw [Bytes.size_zeros]
  decide +kernel

theorem begin_silentGuest :
    (silentGuest.begin Config.default.maxMemoryBytes Config.default.fuel).logs =
      [⟨3, 0, 2, silentMemory⟩] := by
  unfold Guest.Constant.Description.begin
  rw [if_neg (by decide), load_silentGuest]
  rfl

theorem event_silentGuest :
    LogRequest.event ⟨3, 0, 2, silentMemory⟩ = .guestLine .info "hi" := by
  have hfits : 0 + "hi".toUTF8.size ≤ (Bytes.zeros 65536).size := by
    rw [Bytes.size_zeros]
    decide +kernel
  have hbytes : LogRequest.bytes ⟨3, 0, 2, silentMemory⟩ = "hi".toUTF8 :=
    Bytes.extract_overwrite_same hfits
  rw [event_eq, if_pos (by rw [size_silentMemory]; decide), hbytes, Text.Utf8.decodeLossy_toUTF8]
  rfl

theorem start_line_unheard : ∃ m q, silentGuest.compile = some m ∧
    (m.start Config.default.maxMemoryBytes Config.default.fuel).logs = [q] ∧
    q.ptr.toNat + q.len.toNat ≤ q.memory.size ∧ q.event = .guestLine .info "hi" ∧
    (Host.load m .default 5).events = [] := by
  refine ⟨⟨silentGuest.exports, silentGuest.begin, Guest.Constant.State.fuel⟩,
    ⟨3, 0, 2, silentMemory⟩, if_pos (by decide +kernel), begin_silentGuest, ?_, event_silentGuest,
    (Host.load_unheard (by decide +kernel) 5).1⟩
  rw [size_silentMemory]
  decide

end HandleBridge
