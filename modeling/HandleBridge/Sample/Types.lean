import HandleBridge.Export.Script
import HandleBridge.Buffer

/-
  Three sample types in one module: a counter with a label, a node that owns another node, and
  a wrapped number, whose few exports stand here too. Its `create` takes an argument and its
  `destroy` answers.
-/

namespace HandleBridge.Sample

/-- A number that goes up and down, and a label that the other side writes. -/
structure Counter where
  value : UInt64 := 0
  label : Buffer

/-- A link in a chain; `child` is the handle of the next one, or zero. -/
structure Node where
  depth : UInt32
  child : UInt32

/-- A number in a wrapper. -/
structure Wrap where
  value : UInt32

/-- The sample module. -/
abbrev catalog : Catalog where
  count := 3
  Value
    | 0 => Counter
    | 1 => Node
    | 2 => Wrap
  name
    | 0 => "Counter"
    | 1 => "Node"
    | 2 => "Tag>"
  slotBytes
    | 0 => 40
    | 1 => 16
    | 2 => 12

/-- The counter among the types of the module. -/
abbrev counterType : Fin catalog.count := ⟨0, by decide⟩

/-- The node among the types of the module. -/
abbrev nodeType : Fin catalog.count := ⟨1, by decide⟩

/-- The wrapped number among the types of the module. -/
abbrev wrapType : Fin catalog.count := ⟨2, by decide⟩

namespace Wrap

def create (value : UInt32) : Script catalog UInt32 :=
  .create wrapType (pure (⟨value⟩ : Wrap)) Script.silentDrop

def get (raw : UInt32) : Script catalog UInt32 :=
  .withInstance wrapType raw 0 fun (v : Wrap) => pure (v, .bare v.value)

/-- Ends the instance and answers its number. -/
def destroy (raw : UInt32) : Script catalog UInt32 :=
  .take wrapType .destroy raw 0 fun (v : Wrap) => pure (.bare v.value)

end Wrap

end HandleBridge.Sample
