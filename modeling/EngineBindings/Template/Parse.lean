/-
  EngineBindings/Template/Parse.lean
  ==================================
  **From the text of a template to its nodes.**

  The body of each tag is a row of names, numbers and marks.  Loops and branches close in the
  reverse order in which they open; the parser holds those that are open, innermost first,
  with the nodes that were before them.
-/
import EngineBindings.Dictionary
import EngineBindings.Template.Nesting
import EngineBindings.Template.Tag
import EngineBindings.Text.Word

namespace EngineBindings.Template

/-! ### Tokens of a tag -/

/-- A token of the body of a tag. -/
inductive Token where
  | name (name : String)
  | number (value : Nat)
  | mark (mark : Char)
  | malformed
deriving DecidableEq

/-- Whether a run of characters is a whole number: a digit that is no zero and digits after
    it, or zeros alone. -/
def isNumber (run : List Char) : Bool :=
  run.all Text.isDecimal &&
    (run.all (· = '0') || run.head?.any fun c => c.isDigit && c ≠ '0')

def runToken (run : List Char) : Token :=
  if isNumber run then .number (Text.decimalNumber run)
  else if run.head?.any Text.isNameStart then .name (String.ofList run)
  else .malformed

def endRun (run : List Char) : List Token :=
  if run = [] then [] else [runToken run.reverse]

/-- The tokens of a row of characters; `run` is the name or number at hand, last character
    first. -/
def tokensAfter (run : List Char) : List Char → List Token
  | [] => endRun run
  | c :: rest =>
    if Text.isNameChar c then tokensAfter (c :: run) rest
    else if Text.isBlank c then endRun run ++ tokensAfter [] rest
    else endRun run ++ .mark c :: tokensAfter [] rest

def tokens (body : List Char) : List Token :=
  tokensAfter [] body

/-! ### Expressions -/

/-- An expression with the filters that follow it. -/
def withFilters : Expression → List Token → Option Expression
  | e, [] => some e
  | e, .mark '|' :: .name "safe_ident" :: rest => withFilters (.rustIdent e) rest
  | _, _ => none

/-- An expression with the fields, positions and filters that follow it. -/
def withSteps : Expression → List Token → Option Expression
  | e, .mark '.' :: .name name :: rest => withSteps (.field e name) rest
  | e, .mark '.' :: .number n :: rest => withSteps (.item e n) rest
  | e, .mark '[' :: .number n :: .mark ']' :: rest => withSteps (.item e n) rest
  | e, rest => withFilters e rest

/-- The names that stand for a constant, with the constant. -/
def constants : Dictionary String Expression :=
  [("true", .truth true), ("True", .truth true), ("false", .truth false),
   ("False", .truth false), ("none", .nothing), ("None", .nothing)]

/-- What a name stands for: one of the constants, or itself.  The word `not` is no name. -/
def nameExpression? (name : String) : Option Expression :=
  match Dictionary.get? name constants with
  | some constant => some constant
  | none => if name = "not" then none else some (.name name)

def expression? : List Token → Option Expression
  | .name name :: rest => (nameExpression? name).bind (withSteps · rest)
  | .number n :: rest => withSteps (.number n) rest
  | _ => none

/-! ### Statements -/

inductive Statement where
  | assign (name : String) (value : Expression)
  | loop (name : String) (values : Expression)
  | endLoop
  | branch (condition : Expression)
  | endBranch

/-- Whether a name may be assigned: the constants may not. -/
def isAssignable (name : String) : Bool :=
  (Dictionary.get? name constants).isNone

def statement? : List Token → Option Statement
  | .name "set" :: .name name :: .mark '=' :: rest =>
    if isAssignable name then (expression? rest).map (.assign name) else none
  | .name "for" :: .name name :: .name "in" :: rest =>
    if isAssignable name then (expression? rest).map (.loop name) else none
  | .name "if" :: rest => (expression? rest).map .branch
  | [.name "endfor"] => some .endLoop
  | [.name "endif"] => some .endBranch
  | _ => none

/-! ### Templates -/

/-- A loop or a branch whose end has not come. -/
inductive Opening where
  | loop (name : String) (values : Expression)
  | branch (condition : Expression)

/-- The most loops and branches that may be open at once while a template is read. -/
def maxDepth : Nat := 240

/-- The loops and branches at hand with one more, that nothing stands in yet. -/
def openOne (opening : Opening) (nodes : List Node) (opened : List (Opening × List Node)) :
    Except Error (List (Opening × List Node)) :=
  if opened.length < maxDepth then .ok ((opening, nodes) :: opened) else .error .tooDeep

/-- What a template needs to have at a place. -/
def need {α : Type} : Option α → Except Error α
  | some value => .ok value
  | none => .error .malformed

/-- The nodes of the parts of a template.  `opened` are the loops and branches at hand,
    each with the nodes before it, and `nodes` the nodes inside the innermost, last first. -/
def build (opened : List (Opening × List Node)) (nodes : List Node) :
    List Part → Except Error (List Node)
  | [] => if opened.isEmpty then .ok nodes.reverse else .error .malformed
  | .unclosed :: _ => .error .malformed
  | .text text :: rest => build opened (.text text :: nodes) rest
  | .tag tag :: rest =>
    match tag.kind with
    | .comment => build opened nodes rest
    | .print => do
      let value ← need (expression? (tokens tag.body))
      build opened (.print value :: nodes) rest
    | .statement => do
      match ← need (statement? (tokens tag.body)), opened with
      | .assign name value, opened => build opened (.assign name value :: nodes) rest
      | .loop name values, opened => build (← openOne (.loop name values) nodes opened) [] rest
      | .branch condition, opened => build (← openOne (.branch condition) nodes opened) [] rest
      | .endLoop, (.loop name values, outer) :: opened =>
        build opened (.loop name values nodes.reverse :: outer) rest
      | .endBranch, (.branch condition, outer) :: opened =>
        build opened (.branch condition nodes.reverse :: outer) rest
      | _, _ => throw .malformed

def parse (source : String) : Except Error (List Node) := do
  let nodes ← build [] [] (parts none (cut none [] source.toList))
  checkNesting nodes
  return nodes

end EngineBindings.Template
