import HandleBridge.Binding.Plan

/-
  What a plan adds to the source text, token by token: the store of the instances, and for every
  export a function that the outside can call by name.
-/

namespace HandleBridge.Binding

open HandleBridge.Source

/-! Pieces of source text as tokens; every punctuation character is one. -/

/-- A run of punctuation. -/
def symbols (text : String) : List String := text.toList.map String.singleton

/-- A path from the root of all names. -/
def rootPath (names : List String) : List String := names.flatMap fun n => [":", ":", n]

def enclosed (d : Delimiter) (content : List String) : List String :=
  String.singleton d.opening :: content ++ [String.singleton d.closing]

@[simp] theorem enclosed_parenthesis (content : List String) :
    enclosed .parenthesis content = "(" :: (content ++ [")"]) := rfl

@[simp] theorem enclosed_bracket (content : List String) :
    enclosed .bracket content = "[" :: (content ++ ["]"]) := rfl

@[simp] theorem enclosed_brace (content : List String) :
    enclosed .brace content = "\x7b" :: (content ++ ["\x7d"]) := rfl

def inAngles (content : List String) : List String := "<" :: content ++ [">"]

/-- Items with commas between them. -/
def commas (items : List (List String)) : List String := [","].intercalate items

/-! The store. -/

/-- The type of a store for instances of a type, which calls share. -/
def storeType (type : List String) : List String :=
  rootPath ["std", "cell", "RefCell"] ++
    inAngles (rootPath ["theus_core", "HandleStore"] ++ inAngles type)

/-- Every thread has one store for the instances of a type. -/
def storeTokens (type : List String) : List String :=
  let result := ["&", "'", "static"] ++ rootPath ["std", "thread", "LocalKey"] ++
    inAngles (storeType ["Self"] ++ [","])
  let fresh := rootPath ["std", "cell", "RefCell", "new"] ++ enclosed .parenthesis
    (rootPath ["theus_core", "HandleStore", "new"] ++ enclosed .parenthesis [])
  let store := rootPath ["std", "thread_local"] ++ ["!"] ++ enclosed .brace
    (["static", "STORE", ":"] ++ storeType type ++ ["="] ++ fresh ++ [";"])
  ["impl"] ++ rootPath ["theus_core", "Handled"] ++ ["for"] ++ type ++ enclosed .brace
    (["fn", "store"] ++ enclosed .parenthesis [] ++ symbols "->" ++ result ++
      enclosed .brace (store ++ ["&", "STORE"]))

/-! Exports. -/

/-- The function of the support library that a route leads through. -/
def Route.helper : Route → List String
  | create => rootPath ["theus_core", "export", "create"]
  | direct => rootPath ["theus_core", "IntoBoundary", "into_boundary"]
  | borrow => rootPath ["theus_core", "export", "with_instance"]
  | destroy => rootPath ["theus_core", "export", "destroy"]
  | consume => rootPath ["theus_core", "export", "consume"]

/-- The function that an export calls, named so that no other one can be meant. -/
def callee (p : Plan) (e : Export) : List String :=
  let owner :=
    Tree.tokensOf p.self.trees ++
      match p.trait? with
      | some t => "as" :: Tree.tokensOf t.trees
      | none => []
  inAngles owner ++ [":", ":", e.method]

/-- The type in which the result crosses the boundary. -/
def resultType (e : Export) : List String :=
  match e.route with
  | .create => ["u32"]
  | _ =>
    let declared :=
      match e.output with
      | some t => Tree.tokensOf t.trees
      | none => enclosed .parenthesis []
    inAngles (declared ++ ["as"] ++ rootPath ["theus_core", "IntoBoundary"]) ++
      rootPath ["Abi"]

def paramTokens (e : Export) : List String :=
  (if e.route.takesHandle then ["__theus_handle", ":", "u32", ","] else []) ++
    commas (e.params.map fun p => [p.name, ":"] ++ Tree.tokensOf p.type.trees)

/-- The call itself. An instance is handed on in front of the other arguments. -/
def bodyTokens (p : Plan) (e : Export) : List String :=
  let args := commas (e.params.map fun p => [p.name])
  let call := callee p e
  let self := Tree.tokensOf p.self.trees
  match e.route with
  | .create =>
    e.route.helper ++ [":", ":"] ++ inAngles self ++
      enclosed .parenthesis (symbols "||" ++ call ++ enclosed .parenthesis args)
  | .direct => e.route.helper ++ enclosed .parenthesis (call ++ enclosed .parenthesis args)
  | _ =>
    e.route.helper ++ [":", ":"] ++ inAngles (self ++ [",", "_"]) ++ enclosed .parenthesis
      (["__theus_handle", ",", "|", "__theus_this", "|"] ++ call ++
        enclosed .parenthesis (["__theus_this", ","] ++ args) ++ [","])

def exportTokens (p : Plan) (e : Export) : List String :=
  Tree.tokensOf (e.docs.flatMap Attribute.trees) ++ ["#"] ++ enclosed .bracket ["no_mangle"] ++
    ["pub", "extern", "\"C\"", "fn", e.name] ++ enclosed .parenthesis (paramTokens e) ++
    symbols "->" ++ resultType e ++ enclosed .brace (bodyTokens p e)

/-- All that a plan adds. -/
def Plan.tokens (p : Plan) : List String :=
  (if p.ownsStore then storeTokens (Tree.tokensOf p.self.trees) else []) ++
    p.exports.flatMap (exportTokens p)

end HandleBridge.Binding
