import HandleBridge.Source.TypeExpr

/-
  Patterns: what a value is matched against where it gets its name.

  Of a pattern only its end matters, and the name that it gives to the whole value, if it does.
  What stands in a group is not looked into. The paths of a pattern are those of values: the
  arguments of a segment stand behind `::`.
-/

namespace HandleBridge.Source

namespace Parser

/-! Paths and ranges. -/

/-- Whether a pattern begins with a path that is more than a name. -/
def pathPatternAhead (ts : List Tree) : Bool :=
  let next := ts.drop 1
  (Ahead.name ts && (["::", "!", ".."].any (fun p => Ahead.punct p next)
      || Ahead.group .brace next || Ahead.group .parenthesis next))
    || (Ahead.word "self" ts && Ahead.punct "::" next)
    || ["::", "<"].any (fun p => Ahead.punct p ts)
    || ["Self", "super", "crate"].any fun w => Ahead.word w ts

/-- The path of a value. Answers whether it may be the name of a template. -/
def valuePath : Parser Bool := do
  let deep ← deepEnough
  if ← sees (Ahead.punct "<") then
    deep.qualifiedPath false
    return false
  let (_, front, last) ← deep.path false
  return (last :: front).all fun s => s.arguments.isNone

/-- One end of a range: a constant, a block that is computed beforehand, or a path. -/
def rangeBound : Parser Unit := do
  if ← sees Ahead.constant then constant
  else if ← word? "const" then
    let _ ← groupRow .brace
  else
    let _ ← valuePath

/-- Whether a range has no upper end. -/
def rangeOpen (ts : List Tree) : Bool :=
  ts.isEmpty || colonAhead ts || Ahead.word "if" ts
    || ["|", "=", ",", ";"].any fun p => Ahead.punct p ts

/-- The dots of a range and its upper end, if it has one. -/
def rangeEnd : Parser Unit := do
  unless (← punct? "..=") || (← punct? "...") do punct ".."
  unless ← sees rangeOpen do rangeBound

/-- A pattern that begins with a path: a call of a template, a structure or a tuple that is taken
apart, a range, or a constant. -/
def pathPattern : Parser Unit := do
  let plain ← valuePath
  if plain && (← sees templateAhead) then
    punct "!"
    let _ ← anyGroup
  else if ← sees fun ts => Ahead.group .brace ts || Ahead.group .parenthesis ts then skip 1
  else if ← sees (Ahead.punct "..") then rangeEnd

/-! All patterns. -/

/-- A pattern behind at most so many marks: the name that it gives to the whole value. -/
def patternWithin : Nat → Parser (Option String)
  | 0 => failHere fun _ => .unexpectedToken
  | n + 1 => do
    if ← sees pathPatternAhead then
      pathPattern
      return none
    else if ← word? "_" then return none
    else if ← word? "box" then
      let _ ← patternWithin n
      return none
    else if ← sees fun ts => Ahead.constant ts || Ahead.word "const" ts then
      rangeBound
      if ← sees (Ahead.punct "..") then rangeEnd
      return none
    else if ← punct? "&" then
      let _ ← word? "mut"
      let _ ← patternWithin n
      return none
    else if ← sees fun ts => Ahead.group .parenthesis ts || Ahead.group .bracket ts then
      skip 1
      return none
    else if ← sees (Ahead.punct "..") then
      rangeEnd
      return none
    else
      let _ ← word? "ref"
      let _ ← word? "mut"
      let given ← if ← sees (Ahead.word "self") then anyWord else name
      if ← punct? "@" then
        let _ ← patternWithin n
      return some given

/-- A pattern: the name that it gives to the whole value. -/
def pattern : Parser (Option String) := do patternWithin ((← get).rest.length + 1)

end Parser

end HandleBridge.Source
