import HandleBridge.Guest.Module

/-
  Guests each function of which does the same at every call: some log lines, perhaps more
  memory, perhaps a trap, and then a fixed answer. They show how a host fares with guests that
  do not keep the protocol.

  `compile` refuses a description that is no valid module: two exports of one name, more
  memory than there may be, an argument where there is none.

  Fuel is counted per call. Entering a function takes one unit, and the call traps unless one
  more is left; what the body takes then stops at zero.
-/

namespace HandleBridge.Guest.Constant

/-- What a function returns. -/
inductive Answer where
  | number (n : UInt32)
  /-- Its first argument. -/
  | argument
  /-- The log level that the guest was told last. -/
  | level
deriving DecidableEq

/-- What a function does, in this order. -/
structure Behaviour where
  /-- The name it is exported under, if it is not the usual one. -/
  name : Option String := none
  /-- One more parameter, of another type. -/
  extraParameter : Bool := false
  logs : List (UInt32 × UInt32 × UInt32) := []
  /-- Pages by which it grows the memory, if it can. -/
  grow : Option Nat := none
  callsImport : Bool := false
  traps : Bool := false
  answer : Answer := .number 0

/-- A guest. -/
structure Description where
  pages : Nat := 1
  maxPages : Option Nat := none
  /-- The name under which the memory is exported. -/
  memory : Option String := some "memory"
  /-- The name of one more exported function, without parameters and result. -/
  memoryFunction : Option String := none
  data : List (Nat × ByteArray) := []
  /-- Whether it imports a function that the host does not know. -/
  unknownImport : Bool := false
  names : ExportNames := .default
  create : Option Behaviour := some {}
  ptr : Option Behaviour := some {}
  len : Option Behaviour := some {}
  reserve : Option Behaviour := some {}
  destroy : Option Behaviour := some {}
  initLog : Option Behaviour := none
  start : Option Behaviour := none

/-- What the guest keeps outside its memory, and the limits set at its start. -/
structure State where
  level : UInt32 := 4294967295
  fuel : Option Nat := none
  maxMemoryBytes : Nat
  maxPages : Nat

/-- Pages that any memory may have. -/
def mostPages : Nat := 65536

/-- Takes fuel, as far as there is some. -/
def State.burn (n : Nat) (s : State) : State := { s with fuel := s.fuel.map (· - n) }

/-- Takes the fuel for entering a function; nothing if there is too little. -/
def State.enter? (s : State) : Option State :=
  match s.fuel with
  | none => some s
  | some n => if n ≤ 1 then none else some { s with fuel := some (n - 1) }

/-- More memory, if the limits allow it. -/
def grown (pages : Nat) (m : Machine State) : Machine State :=
  let size := m.memory.size + pages * pageBytes
  if size ≤ m.state.maxMemoryBytes ∧ size ≤ m.state.maxPages * pageBytes then
    { m with memory := Bytes.pushZeros (pages * pageBytes) m.memory }
  else m

/-- Runs a function. `argument` is its first argument; `told` is the level that it is to
remember; a function with a result pays for it and answers, the others answer zero. -/
def Behaviour.run (b : Behaviour) (argument : UInt32) (told : Option UInt32) (hasResult : Bool) :
    Code State UInt32 := fun m =>
  match m.state.enter? with
  | none => ⟨.error .outOfFuel, { m with state := { m.state with fuel := some 0 } }, []⟩
  | some state =>
    let state :=
      match told with
      | some level => { state.burn 2 with level }
      | none => state
    let logs := b.logs.map fun (level, ptr, len) => ⟨level, ptr, len, m.memory⟩
    let m : Machine State := ⟨m.memory, state.burn (4 * logs.length)⟩
    let m :=
      match b.grow with
      | some pages => grown pages { m with state := m.state.burn 2 }
      | none => m
    if b.callsImport then ⟨.error .unknownImport, { m with state := m.state.burn 1 }, logs⟩
    else if b.traps then ⟨.error .unreachable, m, logs⟩
    else if hasResult then
      let answer :=
        match b.answer with
        | .number n => n
        | .argument => argument
        | .level => m.state.level
      ⟨.ok answer, { m with state := m.state.burn 1 }, logs⟩
    else ⟨.ok 0, m, logs⟩

/-- The same call without its result. -/
def withoutResult (c : Code State UInt32) : Code State Unit := fun m =>
  let r := c m
  ⟨r.result.map fun _ => (), r.machine, r.logs⟩

def Behaviour.source (b : Behaviour) : Function State :=
  if b.extraParameter then .other else .source (b.run 0 none true)

def Behaviour.unary (b : Behaviour) : Function State :=
  if b.extraParameter then .other else .unary fun x => b.run x none true

def Behaviour.binary (b : Behaviour) : Function State :=
  if b.extraParameter then .other else .binary fun x _ => b.run x none true

def Behaviour.command (b : Behaviour) : Function State :=
  if b.extraParameter then .other else .command fun x => withoutResult (b.run x none false)

def Behaviour.initLog (b : Behaviour) : Function State :=
  if b.extraParameter then .other else .command fun x => withoutResult (b.run x (some x) false)

namespace Description

/-- One export, under the usual name unless another is given. -/
def exported (usual : String) (f : Behaviour → Function State) :
    Option Behaviour → List (String × Export State)
  | none => []
  | some b => [(b.name.getD usual, .function (f b))]

/-- All exports. -/
def exports (d : Description) : List (String × Export State) :=
  (d.memory.toList.map fun name => (name, .memory))
    ++ (d.memoryFunction.toList.map fun name => (name, .function .other))
    ++ exported d.names.create Behaviour.source d.create
    ++ exported d.names.ptr Behaviour.unary d.ptr
    ++ exported d.names.len Behaviour.unary d.len
    ++ exported d.names.reserve Behaviour.binary d.reserve
    ++ exported d.names.destroy Behaviour.command d.destroy
    ++ exported "theus_init_log" Behaviour.initLog d.initLog

/-- All functions. -/
def behaviours (d : Description) : List Behaviour :=
  [d.create, d.ptr, d.len, d.reserve, d.destroy, d.initLog, d.start].filterMap id

/-- Whether this describes a module. -/
def isValid (d : Description) : Bool :=
  (d.exports.map Prod.fst).Nodup
    && d.pages ≤ d.maxPages.getD mostPages && d.maxPages.getD mostPages ≤ mostPages
    && (d.unknownImport || d.behaviours.all fun b => !b.callsImport)
    && d.create.all (fun b => b.answer != .argument)
    && d.start.all (fun b => !b.extraParameter)
    && d.data.all fun p => p.1 < UInt32.size

/-- Writes the initial bytes, if they fit. -/
def load (memory : ByteArray) : List (Nat × ByteArray) → Option ByteArray
  | [] => some memory
  | (offset, bytes) :: rest =>
    if offset + bytes.size ≤ memory.size then load (Bytes.overwrite memory offset bytes) rest
    else none

/-- Makes the memory, fills it, and runs the start function. -/
def begin (d : Description) (maxMemoryBytes : Nat) (fuel : Option Nat) : Start State :=
  if maxMemoryBytes < d.pages * pageBytes then ⟨.error none, []⟩
  else
    match load (Bytes.zeros (d.pages * pageBytes)) d.data with
    | none => ⟨.error none, []⟩
    | some memory =>
      let state : State := { fuel, maxMemoryBytes, maxPages := d.maxPages.getD mostPages }
      match d.start with
      | none => ⟨.ok ⟨memory, state⟩, []⟩
      | some b =>
        let r := b.run 0 none false ⟨memory, state⟩
        match r.result with
        | .ok _ => ⟨.ok r.machine, r.logs⟩
        | .error trap => ⟨.error (some trap), r.logs⟩

/-- The module, if the description is valid. -/
def compile (d : Description) : Option (Module State) :=
  if d.isValid then some ⟨d.exports, d.begin, State.fuel⟩ else none

end Description

end HandleBridge.Guest.Constant
