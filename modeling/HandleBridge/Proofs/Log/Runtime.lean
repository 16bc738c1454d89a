import HandleBridge.Guest.Record
import HandleBridge.Host.Load
import HandleBridge.LogBridge
import HandleBridge.Proofs.Host.Requests
import HandleBridge.Proofs.Log.Stores

/-
  The log of a host that drives the reference guest.

  The host passes the level of its log on to the guest, which remembers it. Two hosts that differ
  in no more than that are twins, and whatever is asked of both of them leaves them twins: no
  function of the guest looks at what it remembers (`Guest.Record.Deaf`), under whatever names
  the host found the functions. Sessions of records take place on a machine with 64-bit addresses;
  the case of 32 bits is in `Proofs/Buffer/Widths`.

  Proved:
  * `Guest.Record.deaf_of_resolve`: all functions that the host may find are deaf.
  * `Host.Request.play_alike`: one request, asked of twins.
  * `Host.load_alike`: loading at two levels makes twins.
  * `logging_changes_nothing`: sessions of stores, exports, records and hosts.
-/

namespace HandleBridge

/-! ## The guest -/

namespace Guest.Record

variable {α : Type} {m : Machine State} {l : UInt32}

/-- The machine if it had been told another log level. -/
def told (level : UInt32) (m : Machine State) : Machine State :=
  { m with state := { m.state with logLevel := level } }

/-- A function that does the same whatever log level the guest was told. It may change what the
guest remembers of it. -/
def Deaf (code : Code State α) : Prop :=
  ∀ l m, ∃ l', code (told l m) = { code m with machine := told l' (code m).machine }

theorem allocate_told (n l : UInt32) (m : Machine State) :
    allocate n (told l m) = ((allocate n m).1, told l (allocate n m).2) := by
  unfold allocate
  dsimp only [told]
  by_cases hfull : 65536 < m.state.heap + (n + 1)
  · simp only [if_pos hfull]
  · by_cases hnul : (m.state.heap + n).toNat < m.memory.size
    · simp only [if_neg hfull, if_pos hnul]
      exact if_pos hnul
    · simp only [if_neg hfull, if_neg hnul]
      exact if_neg hnul

theorem deaf_create : Deaf create := by
  intro l m
  refine ⟨l, ?_⟩
  unfold create
  rw [allocate_told]
  dsimp only [told]
  split
  · rfl
  · generalize allocate defaultLength m = x
    obtain ⟨p, m⟩ := x
    cases p with
    | error trap => rfl
    | ok p =>
      dsimp only
      split
      · rfl
      · rfl

theorem deaf_slotWord (offset : Nat) (h : UInt32) : Deaf (slotWord offset h) := by
  intro l m
  refine ⟨l, ?_⟩
  unfold slotWord
  dsimp only [told]
  split
  · rfl
  · rfl

theorem deaf_reserve (h n : UInt32) : Deaf (reserve h n) := by
  intro l m
  refine ⟨l, ?_⟩
  unfold reserve
  rw [allocate_told]
  dsimp only [told]
  split
  · rfl
  · generalize allocate n m = x
    obtain ⟨p, m⟩ := x
    cases p with
    | error trap => rfl
    | ok p =>
      dsimp only
      split
      · rfl
      · rfl

theorem deaf_destroy (h : UInt32) : Deaf (destroy h) := by
  intro l m
  refine ⟨l, ?_⟩
  unfold destroy
  dsimp only [told]
  split
  · rfl
  · rfl

/-- It remembers what it is told now. -/
theorem deaf_initLog (level : UInt32) : Deaf (initLog level) := fun _ _ => ⟨level, rfl⟩

/-- What is exported under a name is deaf, if it is a function. -/
def DeafExport : Export State → Prop
  | .memory => True
  | .function (.source code) => Deaf code
  | .function (.unary code) => ∀ x, Deaf (code x)
  | .function (.binary code) => ∀ x y, Deaf (code x y)
  | .function (.command code) => ∀ x, Deaf (code x)
  | .function .other => True

theorem deafExport_of_mem {names : ExportNames} {p : String × Export State}
    (h : p ∈ (module names).exports) : DeafExport p.2 := by
  simp only [module, List.mem_cons, List.not_mem_nil, or_false] at h
  rcases h with rfl | rfl | rfl | rfl | rfl | rfl | rfl
  · trivial
  · exact deaf_initLog
  · exact deaf_create
  · exact deaf_slotWord 8
  · exact deaf_slotWord 12
  · exact deaf_reserve
  · exact deaf_destroy

theorem deafExport {names : ExportNames} {name : String} {e : Export State}
    (h : (module names).export? name = some e) : DeafExport e := by
  obtain ⟨front, back, he, -⟩ := List.lookup_eq_some_iff.1 h
  have hmem : (name, e) ∈ (module names).exports :=
    he ▸ List.mem_append_right _ List.mem_cons_self
  exact deafExport_of_mem hmem

/-- All functions of a guest are deaf. -/
structure DeafGuest (g : Guest State) : Prop where
  create : Deaf g.create
  ptr : ∀ raw, Deaf (g.ptr raw)
  len : ∀ raw, Deaf (g.len raw)
  reserve : ∀ raw n, Deaf (g.reserve raw n)
  destroy : ∀ raw, Deaf (g.destroy raw)

/-- What comes after a function that is required, and was found. -/
theorem required_bind {α β : Type} {name : String} {f : Option α} {next : α → Except LoadFault β}
    {b : β} (h : Module.required name f >>= next = .ok b) : ∃ a, f = some a ∧ next a = .ok b := by
  cases f with
  | none => cases h
  | some a => exact ⟨a, rfl, h⟩

theorem deaf_source {names : ExportNames} {name : String} {code : Code State UInt32}
    (h : (module names).source? name = some code) : Deaf code := by
  unfold Module.source? at h
  split at h
  · rename_i he
    cases h
    exact deafExport he
  · cases h

theorem deaf_unary {names : ExportNames} {name : String} {code : UInt32 → Code State UInt32}
    (h : (module names).unary? name = some code) (x : UInt32) : Deaf (code x) := by
  unfold Module.unary? at h
  split at h
  · rename_i he
    cases h
    exact deafExport he x
  · cases h

theorem deaf_binary {names : ExportNames} {name : String}
    {code : UInt32 → UInt32 → Code State UInt32}
    (h : (module names).binary? name = some code) (x y : UInt32) : Deaf (code x y) := by
  unfold Module.binary? at h
  split at h
  · rename_i he
    cases h
    exact deafExport he x y
  · cases h

theorem deaf_command {names : ExportNames} {name : String} {code : UInt32 → Code State Unit}
    (h : (module names).command? name = some code) (x : UInt32) : Deaf (code x) := by
  unfold Module.command? at h
  split at h
  · rename_i he
    cases h
    exact deafExport he x
  · cases h

/-- Under whatever names the host looks for the functions. -/
theorem deaf_of_resolve {names wanted : ExportNames} {g : Guest State}
    (h : (module names).resolve wanted = .ok g) : DeafGuest g := by
  unfold Module.resolve at h
  obtain ⟨create, hcreate, h⟩ := required_bind h
  obtain ⟨ptr, hptr, h⟩ := required_bind h
  obtain ⟨len, hlen, h⟩ := required_bind h
  obtain ⟨reserve, hreserve, h⟩ := required_bind h
  obtain ⟨destroy, hdestroy, h⟩ := required_bind h
  cases h
  exact ⟨deaf_source hcreate, deaf_unary hptr, deaf_unary hlen, deaf_binary hreserve,
    deaf_command hdestroy⟩

end Guest.Record

/-! ## The host -/

namespace Host

open Guest.Record (State Deaf DeafGuest deaf_of_resolve)

variable {α β : Type} {ε : Type} {h h' : Host State}

/-- The host if its guest had been told another log level. -/
def told (level : UInt32) (h : Host State) : Host State :=
  { h with machine := Guest.Record.told level h.machine }

/-- Hosts that differ in the log level that the guest was told, if at all. -/
structure Twins (h h' : Host State) : Prop where
  deaf : DeafGuest h.guest
  told : ∃ l, h' = h.told l

theorem Twins.refl (hg : DeafGuest h.guest) : Twins h h := ⟨hg, h.machine.state.logLevel, rfl⟩

/-- The same answer and the same events, and twins are left. -/
structure Alike (step step' : Step ε (Host State) α) : Prop where
  result : step.result = step'.result
  events : step.events = step'.events
  twins : Twins step.state step'.state

theorem call_alike {name : String} {code : Guest.Code State α} (ht : Twins h h')
    (hc : Deaf code) : Alike (h.call name code) (h'.call name code) := by
  obtain ⟨hg, l, rfl⟩ := ht
  obtain ⟨l', hl⟩ := hc l h.machine
  have hcall : (h.told l).call name code =
      { h.call name code with state := (h.call name code).state.told l' } := by
    unfold call told
    dsimp only
    rw [hl]
  rw [hcall]
  exact ⟨rfl, rfl, hg, l', rfl⟩

theorem andThen_alike {first first' : Step HostFault (Host State) α}
    {next next' : α → Host State → Step HostFault (Host State) β} (hf : Alike first first')
    (hn : ∀ a {h h'}, Twins h h' → Alike (next a h) (next' a h')) :
    Alike (andThen first next) (andThen first' next') := by
  obtain ⟨hr, he, ht⟩ := hf
  unfold andThen
  rw [← hr, ← he]
  cases first.result with
  | error cause => exact ⟨rfl, rfl, ht⟩
  | ok a =>
    obtain ⟨hr, he, ht⟩ := hn a ht
    exact ⟨hr, congrArg (first.events ++ ·) he, ht⟩

/-- As the answer to a request. -/
theorem Alike.reply {step step' : Step ε (Host State) α} (hs : Alike step step') :
    step.reply.1.1 = step'.reply.1.1 ∧ Twins step.reply.1.2 step'.reply.1.2 ∧
      step.reply.2 = step'.reply.2 := ⟨hs.result, hs.twins, hs.events⟩

theorem alike_ok {a : α} {es : List Event} (ht : Twins h h') :
    Alike (.ok a h es : Step ε (Host State) α) (.ok a h' es) := ⟨rfl, rfl, ht⟩

theorem alike_failed {cause : ε} {es : List Event} (ht : Twins h h') :
    Alike (.failed cause h es : Step ε (Host State) α) (.failed cause h' es) := ⟨rfl, rfl, ht⟩

theorem Twins.guest_eq (ht : Twins h h') : h'.guest = h.guest := by
  obtain ⟨-, l, rfl⟩ := ht
  rfl

theorem Twins.exports_eq (ht : Twins h h') : h'.exports = h.exports := by
  obtain ⟨-, l, rfl⟩ := ht
  rfl

theorem Twins.memory_eq (ht : Twins h h') : h'.machine.memory = h.machine.memory := by
  obtain ⟨-, l, rfl⟩ := ht
  rfl

/-- Twins call a function of their guest. -/
theorem export_alike (ht : Twins h h') (name : ExportNames → String)
    (code : Guest State → Guest.Code State α) (hc : Deaf (code h.guest)) :
    Alike (h.call (name h.exports) (code h.guest)) (h'.call (name h'.exports) (code h'.guest)) := by
  rw [ht.guest_eq, ht.exports_eq]
  exact call_alike ht hc

theorem create_alike (ht : Twins h h') : Alike h.create h'.create :=
  export_alike ht (·.create) (·.create) ht.deaf.create

theorem ptr_alike (ht : Twins h h') (raw : UInt32) : Alike (h.ptr raw) (h'.ptr raw) :=
  export_alike ht (·.ptr) (·.ptr raw) (ht.deaf.ptr raw)

theorem len_alike (ht : Twins h h') (raw : UInt32) : Alike (h.len raw) (h'.len raw) :=
  export_alike ht (·.len) (·.len raw) (ht.deaf.len raw)

theorem reserve_alike (ht : Twins h h') (raw n : UInt32) :
    Alike (h.reserve raw n) (h'.reserve raw n) :=
  export_alike ht (·.reserve) (·.reserve raw n) (ht.deaf.reserve raw n)

theorem destroy_alike (ht : Twins h h') (raw : UInt32) :
    Alike (h.destroy raw) (h'.destroy raw) := by
  obtain ⟨hr, he, ht⟩ := export_alike ht (·.destroy) (·.destroy raw) (ht.deaf.destroy raw)
  exact ⟨hr, congrArg (Event.remoteDestroying raw :: ·) he, ht⟩

theorem instantiate_alike (ht : Twins h h') : Alike h.instantiate h'.instantiate := by
  refine andThen_alike (create_alike ht) fun handle h h' ht => ?_
  rw [ht.exports_eq]
  split
  · exact alike_failed ht
  · exact alike_ok ht

theorem read_alike (ht : Twins h h') (raw : UInt32) : Alike (h.read raw) (h'.read raw) := by
  refine andThen_alike (len_alike ht raw) fun len h h' ht => ?_
  refine andThen_alike (ptr_alike ht raw) fun offset h h' ht => ?_
  rw [ht.memory_eq]
  split
  · exact alike_failed ht
  · split
    · exact alike_ok ht
    · exact alike_failed ht

theorem readString_alike (ht : Twins h h') (raw : UInt32) :
    Alike (h.readString raw) (h'.readString raw) := by
  refine andThen_alike (read_alike ht raw) fun bytes h h' ht => ?_
  split
  · exact alike_ok ht
  · exact alike_failed ht

theorem write_alike (ht : Twins h h') (raw : UInt32) (bytes : ByteArray) :
    Alike (h.write raw bytes) (h'.write raw bytes) := by
  unfold write
  split
  · exact alike_failed ht
  · refine andThen_alike (reserve_alike ht raw _) fun offset h h' ht => ?_
    split
    · exact andThen_alike (ptr_alike ht raw) fun old h h' ht => alike_failed ht
    · rw [ht.memory_eq]
      split
      · obtain ⟨hg, l, rfl⟩ := ht
        exact alike_ok ⟨hg, l, rfl⟩
      · exact alike_failed ht

/-! ### Loading -/

/-- The guest has one function that may be told the level, unless its name is hidden by that of
the memory. -/
theorem command_initLog (names : ExportNames) :
    (Guest.Record.module names).command? LoadFault.initLogName = none ∨
      (Guest.Record.module names).command? LoadFault.initLogName = some Guest.Record.initLog := by
  unfold Guest.Module.command? Guest.Module.export? Guest.Record.module
  rw [List.lookup_cons]
  cases LoadFault.initLogName == names.memory with
  | true => exact .inl rfl
  | false => exact .inr rfl

theorem initLog_alike (names : ExportNames) (hg : DeafGuest h.guest) (n m : UInt32) :
    Alike (initLog (Guest.Record.module names) n h) (initLog (Guest.Record.module names) m h) := by
  unfold initLog
  rcases command_initLog names with hc | hc
  · rw [hc]
    exact alike_ok (.refl hg)
  · rw [hc]
    exact ⟨rfl, rfl, hg, m, rfl⟩

/-- Loading at two levels. -/
theorem load_alike (names : ExportNames) (c : Config) (n m : UInt32) :
    Side Twins (load (Guest.Record.module names) c n).result
        (load (Guest.Record.module names) c m).result ∧
      (load (Guest.Record.module names) c n).events =
        (load (Guest.Record.module names) c m).events := by
  unfold load
  dsimp only
  cases ((Guest.Record.module names).start c.maxMemoryBytes c.fuel).result with
  | error cause => exact ⟨.error _, rfl⟩
  | ok machine =>
    dsimp only
    split
    · exact ⟨.error _, rfl⟩
    · cases hr : (Guest.Record.module names).resolve c.exports with
      | error cause => exact ⟨.error _, rfl⟩
      | ok guest =>
        dsimp only
        obtain ⟨hresult, hevents, ht⟩ := initLog_alike (h := ⟨guest, c.exports, machine, _⟩) names
          (deaf_of_resolve hr) n m
        rw [← hresult, ← hevents]
        split
        · exact ⟨.error _, rfl⟩
        · refine ⟨.ok ht, ?_⟩
          unfold memorySize
          rw [ht.memory_eq]

/-! ### Sessions -/

namespace Request

theorem play_alike (r : Request) (ht : Twins h h') :
    (r.play State.fuel h).1.1 = (r.play State.fuel h').1.1 ∧
      Twins (r.play State.fuel h).1.2 (r.play State.fuel h').1.2 ∧
      (r.play State.fuel h).2 = (r.play State.fuel h').2 := by
  cases r with
  | create => exact (create_alike ht).reply
  | instantiate => exact (instantiate_alike ht).reply
  | ptr raw => exact (ptr_alike ht raw).reply
  | len raw => exact (len_alike ht raw).reply
  | reserve raw n => exact (reserve_alike ht raw n).reply
  | destroy raw => exact (destroy_alike ht raw).reply
  | read raw => exact (read_alike ht raw).reply
  | readString raw => exact (readString_alike ht raw).reply
  | write raw bytes => exact (write_alike ht raw bytes).reply
  | writeString raw text => exact (write_alike ht raw text.toUTF8).reply
  | memorySize => exact ⟨congrArg ByteArray.size ht.memory_eq.symm, ht, rfl⟩
  | guestLogLines =>
    obtain ⟨hg, l, rfl⟩ := ht
    exact ⟨rfl, ⟨hg, l, rfl⟩, rfl⟩
  | exports => exact ⟨ht.exports_eq.symm, ht, rfl⟩
  | fuelLeft =>
    obtain ⟨hg, l, rfl⟩ := ht
    exact ⟨rfl, ⟨hg, l, rfl⟩, rfl⟩

end Request

end Host

/-- Zero for a filter that lets nothing through, else the number of its level. -/
def LogFilter.rank : LogFilter → Nat
  | off => 0
  | upTo level => level.rank

namespace Host

open Guest.Record (State)

/-- The reference guest with any names for its exports is loaded, under any names that the host
expects, and without a limit on fuel; the host tells it the level of its own log. -/
def console (names wanted : ExportNames) (maxMemoryBytes : Nat) : Console where
  State := Host State
  Request := Request
  Answer := Request.Answer
  Stop := LoadFault
  start level :=
    let loading := load (Guest.Record.module names) ⟨wanted, maxMemoryBytes, none⟩
      (UInt32.ofNat (LogFilter.ofWord level).rank)
    (loading.result, loading.events)
  play _ r h := (.ok (r.play State.fuel h).1, (r.play State.fuel h).2)
  shown := told 0

theorem console_follows (names wanted : ExportNames) (maxMemoryBytes : Nat) :
    (console names wanted maxMemoryBytes).Follows Twins where
  shown ht := by
    obtain ⟨-, l, rfl⟩ := ht
    rfl
  start n m := by
    obtain ⟨hs, he⟩ := load_alike names ⟨wanted, maxMemoryBytes, none⟩
      (UInt32.ofNat (LogFilter.ofWord n).rank) (UInt32.ofNat (LogFilter.ofWord m).rank)
    refine ⟨hs, ?_⟩
    dsimp only [console]
    rw [he]
    exact Console.among_self _
  play n m r h h' ht := by
    obtain ⟨ha, ht, he⟩ := r.play_alike ht
    refine ⟨.ok ⟨ha, ht⟩, ?_⟩
    dsimp only [console]
    rw [he]
    exact Console.among_self _

end Host

/-- What is logged makes no difference to what is done. -/
theorem logging_changes_nothing :
    (∀ (α : Type) (s : Store α), s.console.Indifferent) ∧
      (∀ (M : Catalog) (w : World M), w.console.Indifferent) ∧
      (∀ w : World Record.catalog, (Record.console w).Indifferent) ∧
      ∀ names wanted maxMemoryBytes, (Host.console names wanted maxMemoryBytes).Indifferent :=
  ⟨fun _ s => s.console_follows.indifferent, fun _ w => w.console_follows.indifferent,
    fun w => (Record.console_follows w).indifferent,
    fun names wanted max => (Host.console_follows names wanted max).indifferent⟩

end HandleBridge
