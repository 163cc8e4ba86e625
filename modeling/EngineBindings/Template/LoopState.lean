/-
  EngineBindings/Template/LoopState.lean
  ======================================
  **How far the loops have come.**

  A loop whose body asks for its state keeps the state for as long as it runs, and whatever
  walks over that state takes its values out of the loop.  The loops that run are a row,
  innermost first; a loop is known by the number of loops around it, and takes its values from
  a row of its own or from one of the loops around it.

  Looking ahead takes a value too: it is put by until the loop comes to it.
-/
import EngineBindings.Template.Value

namespace EngineBindings.Template

/-! ### States -/

/-- Where a loop takes its values from. -/
inductive Feed where
  | values (left : List Value)
  /-- Another loop, by its number. -/
  | loop (id : Nat)

structure LoopState where
  /-- What the loop walks over. -/
  walked : Value
  feed : Feed
  /-- The number of values that the loop is expected to have. -/
  length : Nat
  /-- The number of rounds that have begun. -/
  begun : Nat := 0
  before : Option Value := none
  current : Option Value := none
  /-- A value that was taken by looking ahead. -/
  ahead : Option Value := none

/-- The loops that run, innermost first. -/
abbrev Loops := List LoopState

/-- What a loop gives to whatever walks over its state: the value, and the state itself. -/
def handedOut (id : Nat) (value : Value) : Value :=
  .tuple [value, .loop id]

/-- The state in the round of a value. -/
def LoopState.enter (state : LoopState) (value : Value) : LoopState :=
  { state with begun := state.begun + 1, before := state.current, current := some value }

namespace Loops

def get? (loops : Loops) (id : Nat) : Option LoopState :=
  loops.reverse[id]?

/-- The number that the next loop gets. -/
def next (loops : Loops) : Nat :=
  loops.length

/-! ### Taking values -/

/-- The next round of a loop: its value, if there is one. -/
def advance (id : Nat) : Loops → Option Value × Loops
  | [] => (none, [])
  | state :: outer =>
    if id < outer.length then
      let (value, outer) := advance id outer
      (value, state :: outer)
    else
      match state.ahead, state.feed with
      | some value, _ => (some value, { state with ahead := none }.enter value :: outer)
      | none, .values [] => (none, state :: outer)
      | none, .values (value :: left) =>
        (some value, { state with feed := .values left }.enter value :: outer)
      | none, .loop of =>
        match advance of outer with
        | (some value, outer) =>
          (some (handedOut of value), state.enter (handedOut of value) :: outer)
        | (none, outer) => (none, state :: outer)

/-- The value of the round after the one at hand, if there is one. -/
def lookAhead (id : Nat) : Loops → Option Value × Loops
  | [] => (none, [])
  | state :: outer =>
    if id < outer.length then
      let (value, outer) := lookAhead id outer
      (value, state :: outer)
    else
      match state.ahead, state.feed with
      | some value, _ => (some value, state :: outer)
      | none, .values [] => (none, state :: outer)
      | none, .values (value :: left) =>
        (some value, { state with feed := .values left, ahead := some value } :: outer)
      | none, .loop of =>
        match advance of outer with
        | (some value, outer) =>
          (some (handedOut of value), { state with ahead := some (handedOut of value) } :: outer)
        | (none, outer) => (none, state :: outer)

/-- The number of values that a loop can still give. -/
def left (id : Nat) : Loops → Nat
  | [] => 0
  | state :: outer =>
    if id < outer.length then left id outer
    else
      state.ahead.toList.length +
        match state.feed with
        | .values values => values.length
        | .loop of => left of outer

/-! ### Parts -/

/-- How the state of a loop is shown. -/
def text (loops : Loops) (id : Nat) : String :=
  match loops.get? id with
  | some state =>
    "<LoopContext " ++ toString state.begun ++ "/" ++ toString state.length ++ ">"
  | none => ""

/-- The mark of a missing value in the place of one that is not there. -/
def orMissing (value : Option Value) : Value :=
  value.getD .missing

/-- A value that is not there, with a word on why. -/
def notThere (hint : String) : Value :=
  .absent (some hint) .missing .null

/-- A part of the state of a loop, that needs no looking ahead. -/
def statePart? (state : LoopState) (name : String) : Option Value :=
  let number (n : Int) : Option Value := some (.plain (.int n))
  if name = "index" then number state.begun
  else if name = "index0" then number (state.begun - 1)
  else if name = "revindex" then number (state.length - state.begun + 1)
  else if name = "revindex0" then number (state.length - state.begun)
  else if name = "length" then number state.length
  else if name = "depth" then number 1
  else if name = "depth0" then number 0
  else if name = "first" then some (.plain (.bool (state.begun = 1)))
  else if name = "previtem" then
    if state.begun = 1 then some (notThere "there is no previous item")
    else some (orMissing state.before)
  else if name = "_iterable" then some state.walked
  else if name = "_before" then some (orMissing state.before)
  else if name = "_current" then some (orMissing state.current)
  else if name = "_after" then some (orMissing state.ahead)
  else if name = "_undefined" then some (.type .absent)
  else if name = "_recurse" then some (.plain .null)
  else if name = "_last_changed_value" then some .missing
  else none

/-- A part of the state of a loop, and the loops after it was asked for. -/
def part? (loops : Loops) (id : Nat) (name : String) : Option (Value × Loops) :=
  if name = "last" then
    let (value, loops) := loops.lookAhead id
    some (.plain (.bool value.isNone), loops)
  else if name = "nextitem" then
    let (value, loops) := loops.lookAhead id
    some (value.getD (notThere "there is no next item"), loops)
  else
    (loops.get? id).bind fun state => (statePart? state name).map (·, loops)

end Loops

end EngineBindings.Template
