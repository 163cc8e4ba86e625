/-
  EngineBindings/Template/Nesting.lean
  ====================================
  **How deep a template may be nested.**

  A template is laid out as lines before it is filled in: each loop and each branch indents the
  lines inside it, and each step of an expression puts it between brackets.  Levels, brackets
  and loops inside each other are limited, whether or not the lines are ever reached.

  The name that an expression starts at takes brackets of its own, because it may turn out to
  have no value.  Only the names that a frame is entered with always have one.
-/
import EngineBindings.Template.Scope

namespace EngineBindings.Template

/-! ### Limits -/

/-- The most loops and branches that may stand inside each other. -/
def maxLevels : Nat := 98

/-- The most loops that may stand inside each other. -/
def maxLoops : Nat := 20

/-- The most brackets that may stand inside each other. -/
def maxBrackets : Nat := 200

/-- The most steps that an expression may have to be laid out at all. -/
def maxSteps : Nat := 325

/-! ### Expressions -/

/-- The number of steps of an expression: its fields, items and filters. -/
def Expression.steps : Expression → Nat
  | .field of _ => of.steps + 1
  | .item of _ => of.steps + 1
  | .rustIdent of => of.steps + 1
  | _ => 0

/-- The number of brackets around the innermost part of an expression. -/
def Expression.brackets (isGiven : String → Bool) (e : Expression) : Nat :=
  e.steps + if e.name?.all isGiven then 0 else 2

mutual

def Node.expressions : Node → List Expression
  | .text _ => []
  | .print value => [value]
  | .assign _ value => [value]
  | .loop _ values body => values :: expressionsIn body
  | .branch condition body => condition :: expressionsIn body

def expressionsIn : List Node → List Expression
  | [] => []
  | node :: rest => node.expressions ++ expressionsIn rest

end

mutual

def Node.loopDepth : Node → Nat
  | .loop _ _ body => loopDepthIn body + 1
  | .branch _ body => loopDepthIn body
  | _ => 0

def loopDepthIn : List Node → Nat
  | [] => 0
  | node :: rest => max node.loopDepth (loopDepthIn rest)

end

/-! ### Layout -/

/-- What is known where a node stands: the levels around it, and the frames of names. -/
structure Place where
  level : Nat := 0
  frames : List Frame

namespace Place

def knows (place : Place) (name : String) : Bool :=
  place.frames.any (·.knows name)

def isGiven (place : Place) (name : String) : Bool :=
  (place.frames.findSome? fun frame => Dictionary.get? name frame.starts) = some .given

/-- The place inside a frame that is entered with given names. -/
def inside (place : Place) (given : List String) (body : List Node) : Place :=
  { place with
    frames := Frame.afterAll place.knows (given.foldl Frame.give {}) body :: place.frames }

/-- The place one level further in, if there is one. -/
def indent (place : Place) : Except Error Place :=
  if place.level < maxLevels then .ok { place with level := place.level + 1 }
  else .error .tooManyLevels

/-- An expression that is laid out between further brackets. -/
def check (place : Place) (outer : Nat) (e : Expression) : Except Error Unit :=
  if outer + e.brackets place.isGiven ≤ maxBrackets then .ok () else .error .tooComplex

end Place

mutual

def layOut (place : Place) : Node → Except Error Unit
  | .text _ => .ok ()
  | .print value => place.check 1 value
  | .assign _ value => place.check 0 value
  | .loop name values body => do
    let isShared := usesFirst loopName body
    place.check (if isShared then 1 else 0) values
    let given := if isShared then [name, loopName] else [name]
    layOutAll ((← place.indent).inside given body) body
  | .branch condition body => do
    place.check 0 condition
    layOutAll (← place.indent) body

def layOutAll (place : Place) : List Node → Except Error Unit
  | [] => .ok ()
  | node :: rest => do
    layOut place node
    layOutAll place rest

end

/-! ### Templates -/

/-- The first reason why the nodes of a template cannot be laid out. -/
def checkNesting (nodes : List Node) : Except Error Unit := do
  if someAssignsLoop nodes then throw .reservedName
  if (expressionsIn nodes).any (maxSteps < ·.steps) then throw .tooDeep
  layOutAll (Place.inside ⟨0, []⟩ (if usesFirst selfName nodes then [selfName] else []) nodes) nodes
  if maxLoops < loopDepthIn nodes then throw .tooComplex

end EngineBindings.Template
