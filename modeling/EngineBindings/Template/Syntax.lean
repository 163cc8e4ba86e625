/-
  EngineBindings/Template/Syntax.lean
  ===================================
  **The language of templates.**

  A template is text with tags in it: `{{ ... }}` prints an expression, `{% ... %}` holds a
  statement.  Expressions start at a name and go down through fields and positions, and may
  end in the one filter there is, which turns a name into a Rust identifier.  Statements
  give a name a value, walk over a list, or keep a part only when a value is not empty.
-/

namespace EngineBindings.Template

inductive Expression where
  | name (name : String)
  | truth (b : Bool)
  | number (n : Nat)
  /-- The value that says that there is none. -/
  | nothing
  | field (of : Expression) (name : String)
  | item (of : Expression) (index : Nat)
  | rustIdent (of : Expression)
deriving DecidableEq, Repr

/-- The name that an expression starts at. -/
def Expression.name? : Expression → Option String
  | .name n => some n
  | .field of _ => of.name?
  | .item of _ => of.name?
  | .rustIdent of => of.name?
  | _ => none

/-- A part of a template: text, a printed expression, or a statement. -/
inductive Node where
  | text (text : String)
  | print (value : Expression)
  | assign (name : String) (value : Expression)
  | loop (name : String) (values : Expression) (body : List Node)
  | branch (condition : Expression) (body : List Node)

/-! ### Names -/

/-- The name under which the body of a loop finds the state of the loop. -/
def loopName : String := "loop"

/-- The name under which a template finds itself. -/
def selfName : String := "self"

/-- A place where a name stands: it is assigned there, or used. -/
structure Occurrence where
  name : String
  assigned : Bool
deriving DecidableEq, Repr

def Expression.occurrences (e : Expression) : List Occurrence :=
  e.name?.toList.map (⟨·, false⟩)

mutual

/-- The names in a node, in order; an assigned name comes before its value. -/
def Node.occurrences : Node → List Occurrence
  | .text _ => []
  | .print value => value.occurrences
  | .assign name value => ⟨name, true⟩ :: value.occurrences
  | .loop name values body => ⟨name, true⟩ :: values.occurrences ++ occurrencesIn body
  | .branch condition body => condition.occurrences ++ occurrencesIn body

def occurrencesIn : List Node → List Occurrence
  | [] => []
  | node :: rest => node.occurrences ++ occurrencesIn rest

end

/-- Whether a name is used, and not assigned, in its first place in a row of nodes. -/
def usesFirst (name : String) (nodes : List Node) : Bool :=
  ((occurrencesIn nodes).find? (·.name = name)).any (!·.assigned)

mutual

/-- Whether a loop in a node assigns the name of the states of loops. -/
def Node.assignsLoop : Node → Bool
  | .loop name values body =>
    ⟨loopName, true⟩ ∈ (Node.loop name values body).occurrences
  | .branch _ body => someAssignsLoop body
  | _ => false

def someAssignsLoop : List Node → Bool
  | [] => false
  | node :: rest => node.assignsLoop || someAssignsLoop rest

end

/-! ### Errors -/

/-- Why a template gives no text. -/
inductive Error where
  /-- No template has the name. -/
  | notFound (name : String)
  /-- The file of the template is no text. -/
  | undecodable
  /-- A tag is unknown, incomplete or out of place. -/
  | malformed
  /-- A loop assigns a name that is taken. -/
  | reservedName
  /-- A name or a field without a value is used. -/
  | undefined
  /-- A value has the wrong type for what is done with it. -/
  | wrongType
  /-- A template is walked over, and has no blocks to give. -/
  | noBlock
  /-- Too many loops and branches stand inside each other to be laid out. -/
  | tooManyLevels
  /-- An expression has too many steps, or too many loops stand inside each other. -/
  | tooComplex
  /-- The template is nested too deeply to be read. -/
  | tooDeep
deriving DecidableEq, Repr

/-- The wording of a cause; the causes without words of their own have none. -/
def Error.message? : Error → Option String
  | notFound name => some ("Template not found: " ++ name)
  | _ => none

end EngineBindings.Template
