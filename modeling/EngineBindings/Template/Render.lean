/-
  EngineBindings/Template/Render.lean
  ===================================
  **Filling a template in.**

  Rendering goes through the nodes in order with a scope of names.  A name without a value
  may be passed on, but not printed, walked over, tested or filtered.  What a loop's body
  assigns is forgotten at the end of each round; what a branch assigns stays.

  A loop over a row of values has a round for each.  A loop that shares its values with others,
  because its body asks for its state or because it walks over the state of a loop around it,
  has a round for each value that is still there when the round comes.
-/
import EngineBindings.Template.Scope

namespace EngineBindings.Template

/-- A step of rendering: it sees and changes the scope, and may fail. -/
abbrev Rendering := StateT Scope (Except Error)

/-! ### Expressions -/

/-- A field of a value.  To ask for the state of a loop may change the loops. -/
def fieldOf (value : Value) (name : String) : Rendering Value := do
  let scope ← get
  let part := match value with
    | .loop id => scope.loops.part? id name
    | _ => none
  match part with
  | some (found, loops) =>
    set { scope with loops }
    return found
  | none => value.getField name

def evaluate : Expression → Rendering Value
  | .name name => return (← get).read name
  | .truth b => return .plain (.bool b)
  | .number n => return .plain (.int n)
  | .nothing => return .plain .null
  | .field of name => do fieldOf (← evaluate of) name
  | .item of index => do (← evaluate of).getItem index
  | .rustIdent of => do (← (← evaluate of).demand).rustIdent

/-- The value of an expression that has to be there. -/
def valueOf (e : Expression) : Rendering Value := do
  (← evaluate e).demand

/-- How the value of an expression is printed. -/
def printed (e : Expression) : Rendering String := do
  let value ← valueOf e
  return value.display (← get).loops.text

/-- A name given the value of an expression.  The mark of a missing value takes the value of the
    name away. -/
def assign (name : String) (e : Expression) : Rendering Unit := do
  let value ← evaluate e
  let kept := match value with
    | .missing => none
    | value => some value
  modify (·.assign name kept)

/-! ### Loops -/

/-- Where a loop over a value takes its values from. -/
def feedOf : Value → Except Error Feed
  | .plain value =>
    match value.elements? with
    | some values => .ok (.values (values.map .plain))
    | none => .error .wrongType
  | .tuple items => .ok (.values items)
  | .generic origin argument _ => .ok (.values [.generic origin argument true])
  | .loop id => .ok (.loop id)
  | .template _ => .error .noBlock
  | .absent _ _ _ => .error .undefined
  | _ => .error .wrongType

/-- A step inside a frame with given values and a body; the names of the frame end with it. -/
def inFrame (given : List (String × Value)) (body : List Node) (step : Rendering String) :
    Rendering String := do
  let outer := (← get).frames
  modify (·.enter given body)
  let text ← step
  modify ({ · with frames := outer })
  return text

/-- The next value of a loop, if there is one. -/
def nextOf (id : Nat) : Rendering (Option Value) := do
  let scope ← get
  let (value, loops) := scope.loops.advance id
  set { scope with loops }
  return value

/-- The rounds of the values that a loop still has, and at most as many as `most`. -/
def rounds (id : Nat) (round : Value → Rendering String) :
    (most : Nat) → Rendering (List String)
  | 0 => return []
  | most + 1 => do
    match ← nextOf id with
    | none => return []
    | some value =>
      let text ← round value
      return text :: (← rounds id round most)

def allRounds (id : Nat) (round : Value → Rendering String) : Rendering String := do
  return String.join (← rounds id round ((← get).loops.left id))

/-- The number of values that a loop is expected to have. -/
def expected (loops : Loops) : Feed → Nat
  | .values values => values.length
  | .loop id => ((loops.get? id).map (·.length)).getD 0

/-- A step with a loop among those that run. -/
def withLoop (walked : Value) (feed : Feed) (step : Nat → Rendering String) :
    Rendering String := do
  let loops := (← get).loops
  let state : LoopState := { walked, feed, length := expected loops feed }
  modify ({ · with loops := state :: loops })
  let text ← step loops.next
  modify fun scope => { scope with loops := scope.loops.tail }
  return text

/-! ### Nodes -/

/-- A loop, with what one of its rounds does.  The body is only asked for its names. -/
def walkOver (name : String) (values : Expression) (body : List Node)
    (round : Rendering String) : Rendering String := do
  let walked ← evaluate values
  let feed ← feedOf walked
  if usesFirst loopName body then
    withLoop walked feed fun id => allRounds id fun value =>
      inFrame [(name, value), (loopName, .loop id)] body round
  else
    match feed with
    | .values values =>
      return String.join (← values.mapM fun value => inFrame [(name, value)] body round)
    | .loop id =>
      allRounds id fun value => inFrame [(name, handedOut id value)] body round

mutual

def renderNode : Node → Rendering String
  | .text text => return text
  | .print value => printed value
  | .assign name value => do
    assign name value
    return ""
  | .loop name values body => walkOver name values body (renderNodes body)
  | .branch condition body => do
    if (← valueOf condition).isEmpty then return ""
    renderNodes body

def renderNodes : List Node → Rendering String
  | [] => return ""
  | node :: rest => do
    let text ← renderNode node
    return text ++ (← renderNodes rest)

end

/-! ### Templates -/

/-- The operations that every template knows by name. -/
def commonValues : Dictionary String Value :=
  [("cycler", .type .cycler), ("dict", .type .dictionary), ("joiner", .type .joiner),
   ("lipsum", .common "generate_lorem_ipsum"), ("namespace", .type .names),
   ("range", .type .range)]

/-- The values of the names that do not belong to a template: those of the context, and the
    common operations. -/
def contextValue? (context : List (String × Json)) (name : String) : Option Value :=
  match Dictionary.get? name context with
  | some value => some (.plain value)
  | none => Dictionary.get? name commonValues

/-- The text of a template whose names have the values of a context.  The name of the template
    itself is taken. -/
def fill (template : String) (nodes : List Node) (context : List (String × Json)) :
    Except Error String :=
  if (Dictionary.get? selfName context).isSome then .error .wrongType
  else
    let given := if usesFirst selfName nodes then [(selfName, Value.template template)] else []
    (inFrame given nodes (renderNodes nodes)).run' { context := contextValue? context }

end EngineBindings.Template
