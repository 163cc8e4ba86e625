/-
  EngineBindings/Template/Scope.lean
  ==================================
  **Which names belong to whom.**

  A template is one frame of names, and each round of a loop is another one inside it.  A
  name belongs to a frame from its start to its end, wherever in the frame it is assigned.
  What it starts with is decided by the text of the frame alone:

  * a name that is assigned starts with the value that the frames around give it, and without
    any value if they do not know it;
  * a name that no frame around knows starts with the value of the context if it is used
    before it is assigned, or if it is assigned only under a condition.

  Loops inside a frame are frames of their own; only what they walk over is part of the frame.
-/
import EngineBindings.Dictionary
import EngineBindings.Template.LoopState
import EngineBindings.Text.Decomposition

namespace EngineBindings.Template

/-! ### Frames -/

/-- What a name of a frame starts with. -/
inductive Start where
  /-- What the frame is entered with. -/
  | given
  /-- The value of the context. -/
  | context
  /-- The value that the frames around give it. -/
  | around
  | nothing
deriving DecidableEq, Repr

/-- The names of a frame with what they start with, and those that are assigned so far. -/
structure Frame where
  starts : Dictionary String Start := []
  assigned : List String := []

namespace Frame

def knows (frame : Frame) (name : String) : Bool :=
  (Dictionary.get? name frame.starts).isSome

def give (frame : Frame) (name : String) : Frame :=
  ⟨Dictionary.insert name .given frame.starts, name :: frame.assigned⟩

section

variable (around : String → Bool)

def use (frame : Frame) (name : String) : Frame :=
  if frame.knows name || around name then frame
  else { frame with starts := Dictionary.insert name .context frame.starts }

def assign (frame : Frame) (name : String) : Frame :=
  { starts :=
      if frame.knows name then frame.starts
      else Dictionary.insert name (if around name then .around else .nothing) frame.starts
    assigned := name :: frame.assigned }

def useAll (frame : Frame) (e : Expression) : Frame :=
  e.name?.elim frame (frame.use around)

/-- The frame after a branch, from those before and at the end of it: a name that only the
    branch assigns may be left with what it has outside. -/
def join (before inside : Frame) : Frame :=
  { inside with
    starts := inside.starts.map fun (name, start) =>
      if name ∈ inside.assigned ∧ name ∉ before.assigned then
        (name, if around name then .around else .context)
      else (name, start) }

mutual

def after (frame : Frame) : Node → Frame
  | .text _ => frame
  | .print value => frame.useAll around value
  | .assign name value => (frame.useAll around value).assign around name
  | .loop _ values _ => frame.useAll around values
  | .branch condition body =>
    let before := frame.useAll around condition
    join around before (afterAll before body)

def afterAll (frame : Frame) : List Node → Frame
  | [] => frame
  | node :: rest => afterAll (after frame node) rest

end

end

end Frame

/-! ### Variables -/

/-- The variables of one frame: the names that belong to it, and the values that they have.  Two
    ways to write one name are two names, but one variable. -/
structure Variables where
  names : List String
  /-- The names that the frame was entered with. -/
  given : List String
  values : Dictionary String (Option Value)

namespace Variables

def value? (own : Variables) (name : String) : Option Value :=
  (Dictionary.get? (Text.decomposed name) own.values).join

def set (own : Variables) (name : String) (value : Option Value) : Variables :=
  { own with
    values := Dictionary.insert (Text.decomposed name) value own.values }

end Variables

/-! ### Scopes -/

/-- The values of all names: those of the frames, innermost first, and the context around
    them; and the loops that run. -/
structure Scope where
  frames : List Variables := []
  context : String → Option Value
  loops : Loops := []

namespace Scope

def knows (scope : Scope) (name : String) : Bool :=
  scope.frames.any (name ∈ ·.names)

def value? (scope : Scope) (name : String) : Option Value :=
  match scope.frames.find? (name ∈ ·.names) with
  | some own => own.value? name
  | none => scope.context name

def isGiven (scope : Scope) (name : String) : Bool :=
  (scope.frames.find? (name ∈ ·.names)).any (name ∈ ·.given)

/-- What a name stands for.  A name that was given is not asked whether it has a value. -/
def read (scope : Scope) (name : String) : Value :=
  match scope.value? name with
  | some value => value
  | none => if scope.isGiven name then .missing else .absent none .missing (.string name)

def assign (scope : Scope) (name : String) (value : Option Value) : Scope :=
  match scope.frames with
  | [] => scope
  | own :: outer => { scope with frames := own.set name value :: outer }

/-- The frame of a body inside a scope, that is entered with given names. -/
def frameOf (scope : Scope) (given : List String) (body : List Node) : Frame :=
  Frame.afterAll scope.knows (given.foldl Frame.give {}) body

/-- The values that the names of a frame have from around it. -/
def valuesAround (scope : Scope) (frame : Frame) : List (String × Option Value) :=
  frame.starts.filterMap fun (name, start) => match start with
    | .context => some (name, scope.context name)
    | .around => some (name, scope.value? name)
    | _ => none

def emptyNames (frame : Frame) : List (String × Option Value) :=
  frame.starts.filterMap fun (name, start) =>
    if start = .nothing then some (name, none) else none

/-- The variables of a frame at its start.  The given values come first, then those from
    around the frame, and last the names that start without any value; so of two ways to write
    one name the later decides. -/
def variablesOf (scope : Scope) (given : List (String × Value)) (frame : Frame) : Variables :=
  let entered : List (String × Option Value) := given.map fun (name, value) => (name, some value)
  (entered ++ scope.valuesAround frame ++ emptyNames frame).foldl
    (fun own (name, value) => own.set name value)
    ⟨Dictionary.keys frame.starts, given.map Prod.fst, []⟩

/-- The scope inside a frame with given values and a body. -/
def enter (scope : Scope) (given : List (String × Value)) (body : List Node) : Scope :=
  let frame := scope.frameOf (given.map Prod.fst) body
  { scope with frames := scope.variablesOf given frame :: scope.frames }

end Scope

end EngineBindings.Template
