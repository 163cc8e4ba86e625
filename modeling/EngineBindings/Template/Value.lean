/-
  EngineBindings/Template/Value.lean
  ==================================
  **The values that a template works with.**

  Most values are those of the context.  Beside them stand types and the operations of values
  and types, the states of loops, the template itself, and values that are not there: an
  absent value may be passed on and asked what it is, and every other use of it is an error.

  Every value has the fields of its type before those of the context, so a field of the
  context that has the name of an operation is out of reach.  The state of a loop is known by
  its number alone: what it is at the moment is kept with the loops.
-/
import EngineBindings.Naming.Keyword
import EngineBindings.Template.Syntax
import EngineBindings.Template.ValueType

namespace EngineBindings.Template

/-- A value while a template is filled in. -/
inductive Value where
  | plain (value : Json)
  | tuple (items : List Value)
  | type (t : ValueType)
  /-- A type with an argument; a spread one stands for a row of such types. -/
  | generic (origin : ValueType) (argument : Json) (spread : Bool)
  /-- An operation that belongs to no type. -/
  | common (name : String)
  /-- A field of a type, seen from the type. -/
  | field (kind : FieldKind) (owner : ValueType) (name : String)
  /-- An operation of a value. -/
  | operation (kind : FieldKind) (owner : ValueType) (name : String) (of : Value)
  /-- The state of a loop, by the number of the loop. -/
  | loop (id : Nat)
  /-- The template that is filled in. -/
  | template (name : String)
  /-- A value that is not there, with a word on why, what it was looked for in, and its
      name. -/
  | absent (hint : Option String) (of : Value) (name : Json)
  /-- The mark of a value that is missing. -/
  | missing

namespace Value

/-! ### Types -/

/-- The type of a field that is seen from a type. -/
def typeOfField : FieldKind → ValueType
  | .method => .methodOfType
  | .wrapper => .wrapperOfType
  | .typeMethod => .builtin
  | .feature => .feature
  | .member => .member
  | .function => .function
  | .property => .property
  | .nothing => .nothing

def typeOfOperation : FieldKind → ValueType
  | .wrapper => .wrapper
  | .function => .boundFunction
  | _ => .builtin

def typeOf : Value → ValueType
  | plain value => .ofJson value
  | tuple _ => .tuple
  | type _ => .type
  | generic _ _ _ => .generic
  | common _ => .function
  | field kind _ _ => typeOfField kind
  | operation kind _ _ _ => typeOfOperation kind
  | loop _ => .loop
  | template _ => .template
  | absent _ _ _ => .absent
  | missing => .missing

/-! ### Text -/

def angled (text : String) : String :=
  "<" ++ text ++ ">"

def functionName (owner : ValueType) (name : String) : String :=
  let (owner, name) := owner.writtenName name
  owner.word ++ "." ++ name

def fieldText (owner : ValueType) (name : String) (kind : FieldKind) : String :=
  let described (word : String) : String :=
    angled (word ++ " " ++ Text.quoted name ++ " of " ++ Text.quoted owner.ownerWord ++
      " objects")
  match kind with
  | .method => described "method"
  | .wrapper => described "slot wrapper"
  | .feature => described "attribute"
  | .member => described "member"
  | .function => angled ("function " ++ functionName owner name)
  | .property => angled "property object"
  | .typeMethod => angled ("built-in method " ++ name ++ " of type object")
  | .nothing => Json.null.literal

def genericText (origin : ValueType) (argument : Json) (spread : Bool) : String :=
  (if spread then "*" else "") ++ origin.word ++ "[" ++ argument.literal ++ "]"

/-- How the parts of a tuple stand together; a single one is followed by a comma. -/
def tupleText : List String → String
  | [text] => "(" ++ text ++ ",)"
  | texts => "(" ++ Json.joined texts ++ ")"

section

variable (loopText : Nat → String)

mutual

def literal : Value → String
  | plain value => value.literal
  | tuple items => tupleText (literals items)
  | type t => t.display
  | generic origin argument spread => genericText origin argument spread
  | common name => angled ("function " ++ name)
  | field kind owner name => fieldText owner name kind
  | operation .wrapper _ name of =>
    angled ("method-wrapper " ++ Text.quoted name ++ " of " ++ of.typeOf.word ++ " object")
  | operation .function owner name of =>
    angled ("bound method " ++ functionName owner name ++ " of " ++ literal of)
  | operation _ _ name of =>
    angled ("built-in method " ++ name ++ " of " ++ of.typeOf.word ++ " object")
  | loop id => loopText id
  | template name => angled ("TemplateReference " ++ Text.quoted name)
  | absent _ _ _ => "Undefined"
  | missing => "missing"

def literals : List Value → List String
  | [] => []
  | value :: rest => literal value :: literals rest

end

def display : Value → String
  | plain value => value.display
  | value => value.literal loopText

end

/-! ### Parts -/

/-- A part of an integer: it has itself and nothing beside, over one. -/
def integerPart? (n : Int) (name : String) : Option Json :=
  if name = "real" || name = "numerator" then some (.int n)
  else if name = "imag" then some (.int 0)
  else if name = "denominator" then some (.int 1)
  else none

/-- A part of a double: it has itself and nothing beside. -/
def doublePart? (x : Json.Binary64) (name : String) : Option Json :=
  if name = "real" then some (.float x)
  else if name = "imag" then some (.float (.finite false 0 (-1074)))
  else none

def plainPart? (name : String) : Json → Option Json
  | .int n => integerPart? n name
  | .bool b => integerPart? (if b then 1 else 0) name
  | .float x => doublePart? x name
  | _ => none

def word (text : String) : Value :=
  plain (.string text)

def typePart? (t : ValueType) (name : String) : Option Value :=
  if name = "__name__" || name = "__qualname__" then some (word t.word)
  else if name = "__module__" then some (word t.module)
  else if name = "__mro__" then some (tuple (t.lineage.map type))
  else if name = "__base__" then some (t.parent?.elim (plain .null) type)
  else if name = "__bases__" then some (tuple (t.parent?.toList.map type))
  else none

def genericPart? (origin : ValueType) (argument : Json) (spread : Bool) (name : String) :
    Option Value :=
  if name = "__origin__" then some (type origin)
  else if name = "__args__" then some (tuple [plain argument])
  else if name = "__parameters__" then some (tuple [])
  else if name = "__unpacked__" then some (plain (.bool spread))
  else if name = "__typing_unpacked_tuple_args__" then some (plain .null)
  else none

def commonPart? (own name : String) : Option Value :=
  if name = "__name__" || name = "__qualname__" then some (word own)
  else if name = "__module__" then some (word ValueType.cycler.module)
  else if name = "__defaults__" then
    some (tuple [plain (.int 5), plain (.bool true), plain (.int 20), plain (.int 100)])
  else if name = "__kwdefaults__" || name = "__closure__" then some (plain .null)
  else none

def functionPart? (owner : ValueType) (own name : String) : Option Value :=
  if name = "__name__" then some (word (owner.writtenName own).2)
  else if name = "__qualname__" then some (word (functionName owner own))
  else if name = "__module__" then some (word owner.module)
  else if name = "__kwdefaults__" || name = "__closure__" then some (plain .null)
  else none

def fieldPart? (owner : ValueType) (own name : String) : FieldKind → Option Value
  | .function => functionPart? owner own name
  | .property =>
    if name = "fget" then some (field .function owner own)
    else if name = "fset" || name = "fdel" then some (plain .null)
    else none
  | _ =>
    if name = "__name__" then some (word own)
    else if name = "__qualname__" then some (word (owner.word ++ "." ++ own))
    else if name = "__objclass__" then some (type owner)
    else none

/-- The type in whose name an operation of a value is known. -/
def knownFrom (owner : ValueType) (of : Value) : FieldKind → ValueType
  | .wrapper => owner
  | _ => match of with
    | type t => t
    | value => value.typeOf

def operationPart? (kind : FieldKind) (owner : ValueType) (own : String) (of : Value)
    (name : String) : Option Value :=
  if name = "__self__" then some of
  else match kind with
    | .function =>
      if name = "__func__" then some (field .function owner own)
      else functionPart? owner own name
    | kind =>
      if name = "__name__" then some (word own)
      else if name = "__qualname__" then
        some (word ((knownFrom owner of kind).word ++ "." ++ own))
      else if name = "__objclass__" then some (type owner)
      else if name = "__module__" then some (plain .null)
      else none

/-- What a value was looked for in, in the words about a value that is not there. -/
def holderText : Value → String
  | plain .null => Json.null.literal
  | value => value.typeOf.fullWord ++ " object"

/-- The words about a value that is not there. -/
def absenceText (hint : Option String) (of : Value) (name : Json) : String :=
  match hint, of, name with
  | some hint, _, _ => hint
  | none, missing, name => name.literal ++ " is undefined"
  | none, of, .string name =>
    Text.quoted of.holderText ++ " has no attribute " ++ Text.quoted name
  | none, of, name => of.holderText ++ " has no element " ++ name.literal

def absentPart? (hint : Option String) (of : Value) (key : Json) (name : String) :
    Option Value :=
  if name = "_undefined_hint" then some (hint.elim (plain .null) word)
  else if name = "_undefined_obj" then some of
  else if name = "_undefined_name" then some (plain key)
  else if name = "_undefined_exception" then some (type .undefinedError)
  else if name = "_undefined_message" then some (word (absenceText hint of key))
  else if name = "__slots__" then some (tuple [])
  else none

/-- The field that holds the type of a value. -/
def typeField : String := "__class__"

def part? (value : Value) (name : String) : Option Value :=
  if name = typeField then some (type value.typeOf)
  else match value with
    | plain value => (plainPart? name value).map plain
    | type t => typePart? t name
    | generic origin argument spread => genericPart? origin argument spread name
    | common own => commonPart? own name
    | field kind owner own => fieldPart? owner own name kind
    | operation kind owner own of => operationPart? kind owner own of name
    | absent hint of key =>
      (absentPart? hint of key name).or
        (if name = "__module__" then some (word ValueType.absent.module) else none)
    | value => if name = "__module__" then some (word value.typeOf.module) else none

/-! ### Fields of types -/

/-- A field of a value that belongs to a type of the value, by its kind. -/
def ofType (value : Value) (owner : ValueType) (name : String) : FieldKind → Value
  | .method => operation .method owner name value
  | .wrapper => operation .wrapper owner name value
  | .function => operation .function owner name value
  | .typeMethod => operation .typeMethod owner name (type value.typeOf)
  | .nothing => plain .null
  | kind => (value.part? name).getD (field kind owner name)

def commonField? (value : Value) (name : String) : Option Value :=
  (value.typeOf.find? name).map fun (owner, kind) => value.ofType owner name kind

/-- A field of a type, as the type itself has it. -/
def seenFrom (t owner : ValueType) (name : String) : FieldKind → Value
  | .typeMethod => operation .typeMethod owner name (type t)
  | .nothing => plain .null
  | kind => field kind owner name

/-- A field of a type.  What types are made of comes first, then the fields of the type, and
    last the operations that all types have. -/
def typeField? (t : ValueType) (name : String) : Option Value :=
  match ValueType.type.find? name, t.find? name with
  | some (owner, .feature), _ => some ((type t).ofType owner name .feature)
  | some (owner, .member), _ => some ((type t).ofType owner name .member)
  | _, some (owner, kind) => some (seenFrom t owner name kind)
  | some (owner, kind), none => some ((type t).ofType owner name kind)
  | none, none => none

/-- The fields that a type with an argument does not have from the type. -/
def genericNames : List String :=
  [typeField, "__args__", "__copy__", "__deepcopy__", "__mro_entries__",
   "__origin__", "__parameters__", "__reduce__", "__reduce_ex__",
   "__typing_unpacked_tuple_args__", "__unpacked__"]

def ownField? (value : Value) (name : String) : Option Value :=
  match value with
  | type t => typeField? t name
  | generic origin _ _ =>
    if name ∈ genericNames then value.commonField? name else typeField? origin name
  | operation .function owner own _ =>
    (value.commonField? name).or ((field .function owner own).commonField? name)
  | value => value.commonField? name

/-! ### Fields and items -/

def notFound (value : Value) (name : Json) : Value :=
  absent none value name

/-- What a type has under a name or a number: itself with an argument, if it takes one. -/
def typeItem? (t : ValueType) (argument : Json) : Option Value :=
  if t.takesArgument then some (generic t argument false) else none

/-- A field of a value: one that it has of its own, or one of the context. -/
def getField (value : Value) (name : String) : Except Error Value :=
  match value.ownField? name, value with
  | some found, _ => .ok found
  | none, absent _ _ _ => .error .undefined
  | none, plain object =>
    .ok (((object.field? name).map plain).getD (value.notFound (.string name)))
  | none, type t => .ok ((typeItem? t (.string name)).getD (value.notFound (.string name)))
  | none, value => .ok (value.notFound (.string name))

/-- The value at a position of a list, or the character at one of a text. -/
def getItem (value : Value) (index : Nat) : Except Error Value :=
  let found : Option Value := match value with
    | plain (.array items) => items[index]?.map plain
    | plain (.string s) => s.toList[index]?.map fun c => word (String.ofList [c])
    | tuple items => items[index]?
    | type t => typeItem? t (.int index)
    | _ => none
  match found, value with
  | some found, _ => .ok found
  | none, absent _ _ _ => .error .undefined
  | none, value => .ok (value.notFound (.int index))

/-! ### Uses -/

/-- Whether a value counts as absent. -/
def isEmpty : Value → Bool
  | plain value => value.isEmpty
  | tuple items => items.isEmpty
  | _ => false

mutual

/-- Whether a value may be looked up among the keywords. -/
def isKey : Value → Bool
  | plain value => value.isKey
  | tuple items => areKeys items
  | _ => true

def areKeys : List Value → Bool
  | [] => true
  | value :: rest => isKey value && areKeys rest

end

/-- The Rust identifier of a value: that of a text, and any other value that may be looked up
    among the keywords as it is. -/
def rustIdent : Value → Except Error Value
  | plain (.string s) => .ok (plain (.string (Naming.rustIdent s)))
  | value => if value.isKey then .ok value else .error .wrongType

/-- A value that is there. -/
def demand : Value → Except Error Value
  | absent _ _ _ => .error .undefined
  | value => .ok value

end Value

end EngineBindings.Template
