import HandleBridge.Binding.Objection
import HandleBridge.Source.ImplBlock
import HandleBridge.Text.Identifier
import HandleBridge.Text.LowerCase
import HandleBridge.Text.Quoted

/-
  Which functions an implementation block exports, and how.

  A block without a trait exports its public functions and brings the store of the instances;
  among the functions must be `create` and `destroy`. A block for a trait exports all its
  functions. Only numbers, truth values and characters cross the boundary, so an instance is
  named by its handle, and only `create` may make one. Either everything that is considered is
  exported, or nothing is and every objection is raised.

  A request gives the block as trees, and the arguments of the request, of which there may be none.
-/

namespace HandleBridge.Binding

open HandleBridge.Source

/-- The types whose values cross the boundary. -/
def scalarNames : List String :=
  ["bool", "char", "i8", "i16", "i32", "i64", "isize", "u8", "u16", "u32", "u64", "usize", "f32",
    "f64"]

/-- Whether a type is a path that ends in the name of a scalar, without arguments. -/
def isScalar (t : TypeExpr) : Bool :=
  match t.lastSegment? with
  | some s => s.arguments.getD 0 == 0 && scalarNames.contains s.name
  | none => false

/-- How a call from outside reaches the function. -/
inductive Route where
  /-- The result becomes a new instance. -/
  | create
  /-- No instance takes part. -/
  | direct
  /-- The instance stays where it is. -/
  | borrow
  /-- The instance is handed over, by `destroy`. -/
  | destroy
  /-- The instance is handed over, by any other function. -/
  | consume
deriving DecidableEq

/-- Whether the call names an instance. -/
def Route.takesHandle : Route → Bool
  | create | direct => false
  | borrow | destroy | consume => true

/-- A parameter that crosses the boundary. -/
structure ScalarParam where
  name : String
  type : TypeExpr

/-- A function that is exported. -/
structure Export where
  docs : List Attribute
  /-- What it is called outside. -/
  name : String
  /-- The function that it calls. -/
  method : String
  route : Route
  params : List ScalarParam
  output : Option TypeExpr

/-- All that a block exports. -/
structure Plan where
  self : TypeExpr
  trait? : Option TraitPath
  exports : List Export

/-- A block without a trait brings the store of the instances. -/
def Plan.ownsStore (p : Plan) : Bool := p.trait?.isNone

/-- What is decided about a block. -/
inductive Verdict where
  | exported (plan : Plan)
  | rejected (objections : List Objection)
  /-- An export would be called something that is no identifier. -/
  | misnamed (name : String)

/-- A name without the mark of a raw identifier. -/
def unmarked (name : String) : String :=
  match name.toList with
  | 'r' :: '#' :: rest => String.ofList rest
  | _ => name

/-- What a function of a type, perhaps by a trait, is called outside. -/
def exportName (type : String) (trait? : Option String) (method : String) : String :=
  Text.lowercase type ++ "_" ++
    (match trait? with
      | some t => Text.lowercase t ++ "_"
      | none => "") ++ unmarked method

/-- Whether a name, which may be raw, can be given. -/
def isName (name : String) : Bool := Text.isIdent (unmarked name).toList

/-! Functions. -/

/-- The instance that a function takes, if its type is not spelled out. -/
def receiver? (m : Method) : Option Receiver :=
  m.signature.params.findSome? fun
    | .receiver .typed _ _ => none
    | .receiver kind _ _ => some kind
    | _ => none

/-- The parameters that can cross the boundary. -/
def scalarParams (m : Method) : List ScalarParam :=
  m.signature.params.filterMap fun
    | .named name type => if isScalar type then some ⟨name, type⟩ else none
    | _ => none

/-- Whether the result may hold an instance: somewhere its type says `Self` or names the type. -/
def returnsInstance (type : String) (m : Method) : Bool :=
  match m.signature.output with
  | some out => Tree.anyWordOf (fun w => w == "Self" || w == type) out.type.trees
  | none => false

/-- What stands against a parameter. -/
def paramObjections : Param → List Objection
  | .receiver .typed _ span => [⟨.typedReceiver, span⟩]
  | .receiver _ _ _ => []
  | .named _ type => if isScalar type then [] else [⟨.notScalar, type.span⟩]
  | .pattern span => [⟨.takenApart, span⟩]

/-- What a function of a block is for. -/
inductive Role where
  | create
  | destroy
  | other
deriving DecidableEq

/-- Only in a block without a trait are there functions that make and end instances. -/
def role (b : ImplBlock) (m : Method) : Role :=
  if b.trait?.isSome then .other
  else if m.signature.name = "create" then .create
  else if m.signature.name = "destroy" then .destroy
  else .other

/-- An objection at every place that is given. -/
def objectionAt (cause : Objection.Cause) (span : Option Span) : List Objection :=
  span.toList.map (⟨cause, ·⟩)

/-- What stands against how a function begins. -/
def qualifierObjections (s : Signature) : List Objection :=
  objectionAt .genericMethod s.generics ++ objectionAt .asyncMethod s.async ++
    objectionAt .uncheckedMethod s.unchecked

/-- What stands against a function that makes an instance. -/
def createObjections (type : String) (m : Method) : List Objection :=
  (if (receiver? m).isSome then [⟨.createTakesInstance, m.signature.span⟩] else []) ++
    if returnsInstance type m then [] else [⟨.createReturnsOther, m.signature.span⟩]

/-- What stands against the result of any other function. -/
def outputObjections (type : String) (m : Method) : List Objection :=
  if returnsInstance type m then
    objectionAt .returnsInstance (m.signature.output.map Output.span)
  else []

/-- What stands against the function that ends an instance. -/
def destroyObjections (m : Method) : List Objection :=
  if receiver? m = some .owned then [] else [⟨.destroyTakesNoInstance, m.signature.span⟩]

/-- What stands against a function because of what it is for. -/
def roleObjections (type : String) (r : Role) (m : Method) : List Objection :=
  match r with
  | .create => createObjections type m
  | .destroy => outputObjections type m ++ destroyObjections m
  | .other => outputObjections type m

/-- All that stands against exporting a function. -/
def methodObjections (type : String) (r : Role) (m : Method) : List Objection :=
  qualifierObjections m.signature ++ m.signature.params.flatMap paramObjections ++
    roleObjections type r m

/-- How a function is reached. -/
def route (r : Role) (m : Method) : Route :=
  match r, receiver? m with
  | .create, _ => .create
  | _, none => .direct
  | .destroy, some .owned => .destroy
  | _, some .owned => .consume
  | _, some _ => .borrow

/-! Blocks. -/

/-- Whether a function is considered at all. -/
def isConsidered (b : ImplBlock) (m : Method) : Bool :=
  b.trait?.isSome || m.visibility = .everyone

/-- The functions that are considered, in their order. -/
def considered (b : ImplBlock) : List Method :=
  b.items.filterMap fun
    | .method m => if isConsidered b m then some m else none
    | .other => none

/-- What a considered function is called outside. -/
def nameOf (b : ImplBlock) (type : String) (m : Method) : String :=
  exportName type (b.trait?.map TraitPath.name) m.signature.name

def exportOf (b : ImplBlock) (type : String) (m : Method) : Export where
  docs := m.attributes.filter Attribute.isDoc
  name := nameOf b type m
  method := m.signature.name
  route := route (role b m) m
  params := scalarParams m
  output := m.signature.output.map Output.type

/-- A block without a trait may lack the function that makes instances, or the one that ends
them. -/
def missingObjections (b : ImplBlock) : List Objection :=
  let lacks := fun (r : Role) => !(considered b).any fun m => role b m == r
  if b.trait?.isNone && (lacks .create || lacks .destroy) then
    [⟨.missing (lacks .create) (lacks .destroy), b.self.span⟩]
  else []

/-- All that stands against the functions of a block. -/
def blockObjections (b : ImplBlock) (type : String) : List Objection :=
  (considered b).flatMap (fun m => methodObjections type (role b m) m) ++ missingObjections b

/-- Decides about a block. Names are looked at before objections to functions, and these only if
the block itself is for a named type and has no parameters. -/
def decideBlock (b : ImplBlock) : Verdict :=
  match b.generics, b.self.lastSegment? with
  | some span, _ => .rejected [⟨.genericBlock, span⟩]
  | none, none => .rejected [⟨.unnamedType, b.self.span⟩]
  | none, some ⟨type, _⟩ =>
    match (considered b).find? fun m => !isName (nameOf b type m) with
    | some m => .misnamed (unmarked (nameOf b type m))
    | none =>
      let objections := blockObjections b type
      if objections.isEmpty then
        .exported ⟨b.self, b.trait?, (considered b).map (exportOf b type)⟩
      else .rejected objections

/-! Requests. -/

/-- The answer to a request. A request with arguments is refused whatever it is about. -/
def answer (arguments item : List Tree) : Except ParseFault Verdict :=
  if arguments.isEmpty then decideBlock <$> ImplBlock.ofTrees item
  else .ok (.rejected [⟨.argumentsGiven, Tree.spanOf arguments⟩])

/-- Why a name cannot be given. -/
def misnamedMessage (name : String) : String := Text.quote name ++ " is not a valid Ident"

end HandleBridge.Binding
