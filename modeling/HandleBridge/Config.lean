import HandleBridge.Json.Fields
import HandleBridge.Text.Utf8

/-
  What the host has to know about a guest: the names of its exports, how much memory it may
  have, and how long it may run. The configuration is a JSON text; what it does not mention keeps
  its default.
-/

namespace HandleBridge

/-- The names under which a guest exports its memory and the five functions of the protocol. -/
structure ExportNames where
  memory : String
  create : String
  ptr : String
  len : String
  reserve : String
  destroy : String
deriving DecidableEq

namespace ExportNames

/-- The names that belong to a type and one of its fields. -/
def forField (type field : String) : ExportNames where
  memory := "memory"
  create := type ++ "_create"
  ptr := type ++ "_get_" ++ field
  len := type ++ "_get_" ++ field ++ "_len"
  reserve := type ++ "_set_" ++ field
  destroy := type ++ "_destroy"

def default : ExportNames := forField "record" "cstring"

/-- The fields in their order. -/
def fields : List (Json.Field ExportNames) :=
  [.of "memory" Json.textReader fun v s => { s with memory := v },
   .of "create" Json.textReader fun v s => { s with create := v },
   .of "ptr" Json.textReader fun v s => { s with ptr := v },
   .of "len" Json.textReader fun v s => { s with len := v },
   .of "reserve" Json.textReader fun v s => { s with reserve := v },
   .of "destroy" Json.textReader fun v s => { s with destroy := v }]

def reader : Json.Reader ExportNames := Json.recordReader "struct ExportNames" fields default

/-- The compact JSON form, fields in their order. -/
def toJson (n : ExportNames) : List Char :=
  '\x7b' :: Json.member "memory" (Json.written n.memory)
    ++ ',' :: Json.member "create" (Json.written n.create)
    ++ ',' :: Json.member "ptr" (Json.written n.ptr)
    ++ ',' :: Json.member "len" (Json.written n.len)
    ++ ',' :: Json.member "reserve" (Json.written n.reserve)
    ++ ',' :: Json.member "destroy" (Json.written n.destroy)
    ++ ['\x7d']

end ExportNames

/-- How a host runs a guest. -/
structure Config where
  exports : ExportNames := .default
  /-- The most linear memory the guest may have. -/
  maxMemoryBytes : Nat := 64 * 1024 * 1024
  /-- How long the guest may run, if there is a limit. -/
  fuel : Option Nat := none
deriving DecidableEq

/-- Why there is no configuration. -/
inductive ConfigFault where
  /-- The file is missing or is no text. -/
  | unreadable (file : String)
  | unparsable (problem : Json.Problem)
deriving DecidableEq

def ConfigFault.message : ConfigFault → String
  | unreadable file => s!"Failed to read runtime config {file}"
  | unparsable _ => "Failed to parse runtime config"

namespace Config

def default : Config := {}

/-- The fields in their order. -/
def fields : List (Json.Field Config) :=
  [.of "exports" ExportNames.reader fun v s => { s with exports := v },
   .of "max_memory_bytes" (Json.wordReader "usize") fun v s => { s with maxMemoryBytes := v },
   .of "fuel" (Json.wordOrNullReader "u64") fun v s => { s with fuel := v }]

def reader : Json.Reader Config := Json.recordReader "struct RuntimeConfig" fields default

/-- The configuration that a JSON text describes. -/
def parse (text : String) : Except Json.Problem Config := Json.readWhole reader text

/-- The configuration in a file, given its bytes if the file is there. -/
def load (file : String) (content : Option ByteArray) : Except ConfigFault Config :=
  match content.bind Text.Utf8.decode? with
  | none => .error (.unreadable file)
  | some text =>
    match parse text with
    | .ok c => .ok c
    | .error problem => .error (.unparsable problem)

/-- A number in decimal. -/
def decimal (n : Nat) : List Char := Nat.toDigits 10 n

/-- The compact JSON form, fields in their order. -/
def toJsonChars (c : Config) : List Char :=
  '\x7b' :: Json.member "exports" c.exports.toJson
    ++ ',' :: Json.member "max_memory_bytes" (decimal c.maxMemoryBytes)
    ++ ',' :: Json.member "fuel" (match c.fuel with
      | some n => decimal n
      | none => ['n', 'u', 'l', 'l'])
    ++ ['\x7d']

/-- The compact JSON text. -/
def toJson (c : Config) : String := String.ofList c.toJsonChars

end Config

end HandleBridge
