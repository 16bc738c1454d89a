import HandleBridge.Source.Tree

/-
  Why an implementation block cannot be exported, and where the reason stands.
-/

namespace HandleBridge.Binding

open HandleBridge.Source (Span)

inductive Objection.Cause where
  /-- The request itself came with arguments. -/
  | argumentsGiven
  | genericBlock
  | unnamedType
  | genericMethod
  | asyncMethod
  | uncheckedMethod
  | typedReceiver
  | takenApart
  | notScalar
  | createTakesInstance
  | createReturnsOther
  | returnsInstance
  | destroyTakesNoInstance
  /-- The block lacks one of the two functions, or both. -/
  | missing (create destroy : Bool)
deriving DecidableEq

/-- A reason against exporting. -/
structure Objection where
  cause : Objection.Cause
  span : Span
deriving DecidableEq

namespace Objection

def Cause.message : Cause → String
  | argumentsGiven => "c_compatible does not take arguments"
  | genericBlock => "generic impl blocks cannot be exported; each export needs a concrete type"
  | unnamedType => "c_compatible can only be applied to an impl of a named struct"
  | genericMethod => "generic methods cannot be exported"
  | asyncMethod => "async methods cannot be exported"
  | uncheckedMethod => "unsafe methods cannot be exported"
  | typedReceiver => "typed self receivers cannot be exported; use self, &self or &mut self"
  | takenApart => "exported parameters must be plain identifiers"
  | notScalar => "Only scalar types can cross the boundary; keep other data behind a handle"
  | createTakesInstance => "Create function cannot receive self as argument"
  | createReturnsOther => "Create function must return Self"
  | returnsInstance => "only 'create' may return Self; other instances cannot cross the boundary"
  | destroyTakesNoInstance => "Destroy function must receive owned self argument"
  | missing create destroy =>
    let names := (if create then ["create"] else []) ++ if destroy then ["destroy"] else []
    "Struct must have both 'create' and 'destroy' functions. Missing: " ++ ", ".intercalate names

def message (o : Objection) : String := o.cause.message

end Objection

end HandleBridge.Binding
