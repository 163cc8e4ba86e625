/-
  EngineBindings/Template/ValueType.lean
  ======================================
  **The types of values.**

  A template may ask a value for its type and a type for its fields.  Types stand in a row of
  descent that ends at the type of every value, and a value has the fields of every type in
  the row of its own.
-/
import EngineBindings.Json.Literal
import EngineBindings.Template.FieldTable

namespace EngineBindings.Template

inductive ValueType where
  /-- The type that all others descend from. -/
  | object
  | type
  | nothing
  | truth
  | integer
  | double
  | text
  | list
  | dictionary
  | tuple
  | range
  /-- Operations of values, by how they are written. -/
  | builtin
  | wrapper
  | boundFunction
  /-- Fields of types, by how they are written. -/
  | methodOfType
  | wrapperOfType
  | feature
  | member
  | function
  | property
  /-- A type with an argument. -/
  | generic
  | cycler
  | joiner
  | names
  /-- The mark of a missing value. -/
  | missing
  | loop
  | template
  /-- A value that is not there. -/
  | absent
  | absentBase
  /-- What goes wrong when a value that is not there is used. -/
  | undefinedError
deriving DecidableEq, Repr

namespace ValueType

/-! ### Names -/

def word : ValueType → String
  | object => "object"
  | type => "type"
  | nothing => "NoneType"
  | truth => "bool"
  | integer => "int"
  | double => "float"
  | text => "str"
  | list => "list"
  | dictionary => "dict"
  | tuple => "tuple"
  | range => "range"
  | builtin => "builtin_function_or_method"
  | wrapper => "method-wrapper"
  | boundFunction => "method"
  | methodOfType => "method_descriptor"
  | wrapperOfType => "wrapper_descriptor"
  | feature => "getset_descriptor"
  | member => "member_descriptor"
  | function => "function"
  | property => "property"
  | generic => "GenericAlias"
  | cycler => "Cycler"
  | joiner => "Joiner"
  | names => "Namespace"
  | missing => "MissingType"
  | loop => "LoopContext"
  | template => "TemplateReference"
  | absent => "StrictUndefined"
  | absentBase => "Undefined"
  | undefinedError => "UndefinedError"

/-- The module of the types that need no module. -/
def commonModule : String := "builtins"

def module : ValueType → String
  | generic => "types"
  | cycler => "jinja2.utils"
  | joiner => "jinja2.utils"
  | names => "jinja2.utils"
  | missing => "jinja2.utils"
  | loop => "jinja2.runtime"
  | template => "jinja2.runtime"
  | absent => "jinja2.runtime"
  | absentBase => "jinja2.runtime"
  | undefinedError => "jinja2.exceptions"
  | _ => commonModule

def fullWord (t : ValueType) : String :=
  if t.module = commonModule then t.word else t.module ++ "." ++ t.word

/-- The name of a type in the words about its fields. -/
def ownerWord : ValueType → String
  | generic => generic.fullWord
  | t => t.word

def display (t : ValueType) : String :=
  "<class " ++ Text.quoted t.fullWord ++ ">"

/-! ### Descent -/

/-- A type and those that it descends from. -/
def lineage : ValueType → List ValueType
  | object => [object]
  | truth => [truth, integer, object]
  | absent => [absent, absentBase, object]
  | t => [t, object]

/-- The type that a type descends from at once. -/
def parent? (t : ValueType) : Option ValueType :=
  t.lineage[1]?

/-! ### Fields -/

/-- The fields that belong to a type itself. -/
def fields : ValueType → FieldTable
  | object => objectFields
  | type => typeFields
  | nothing => nothingFields
  | truth => truthFields
  | integer => integerFields
  | double => doubleFields
  | text => textFields
  | list => listFields
  | dictionary => dictionaryFields
  | tuple => tupleFields
  | range => rangeFields
  | builtin => builtinFields
  | wrapper => wrapperFields
  | boundFunction => boundFunctionFields
  | methodOfType => methodOfTypeFields
  | wrapperOfType => wrapperOfTypeFields
  | feature => featureFields
  | member => memberFields
  | function => functionFields
  | property => propertyFields
  | generic => genericFields
  | cycler => cyclerFields
  | joiner => joinerFields
  | names => namesFields
  | missing => missingFields
  | loop => loopFields
  | template => templateFields
  | absent => absentFields
  | absentBase => absentBaseFields
  | undefinedError => {}

/-- The field of a name: its kind, and the type that it belongs to. -/
def find? (t : ValueType) (name : String) : Option (ValueType × FieldKind) :=
  t.lineage.findSome? fun owner => (owner.fields.kind? name).map (owner, ·)

/-- Whether a type takes an argument: those that hold other values do, and the type of
    types. -/
def takesArgument : ValueType → Bool
  | type => true
  | list => true
  | dictionary => true
  | tuple => true
  | _ => false

/-- The field under which a function of a type was written: some have several names.  Absent
    values have one function for everything that they refuse. -/
def writtenName : ValueType → String → ValueType × String
  | absent, _ => (absentBase, "_fail_with_undefined_error")
  | absentBase, name =>
    if name ∈ ["__aiter__", "__getattr__", "__init__", "__repr__"] then (absentBase, name)
    else (absentBase, "_fail_with_undefined_error")
  | cycler, "__next__" => (cycler, "next")
  | t, name => (t, name)

def ofJson : Json → ValueType
  | .null => nothing
  | .bool _ => truth
  | .int _ => integer
  | .float _ => double
  | .string _ => text
  | .array _ => list
  | .object _ => dictionary

end ValueType

end EngineBindings.Template
