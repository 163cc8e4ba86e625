/-
  EngineBindings/Api/Basic.lean
  =============================
  **The description of an engine's API.**

  The engine describes its API in one JSON object.  Two of its parts matter here: the list of
  enums that no class owns, and the list of classes with their enums.  A part that is missing
  or `null` is an empty list; entries without a name are passed over.
-/
import EngineBindings.Api.Error

namespace EngineBindings

/-- The description of an API: the fields of a JSON object. -/
structure Api where
  fields : List (String × Json)

namespace Api

/-- The part that lists the enums without an owner. -/
def globalEnumsKey : String := "global_enums"

def classesKey : String := "classes"

/-- The description of a document, if the document is an object. -/
def ofJson? : Json → Option Api
  | .object fields => some ⟨fields⟩
  | _ => none

/-- The items of a part that lists things. -/
def items (api : Api) (key : String) : Except Error (List Json) :=
  match Dictionary.get? key api.fields with
  | none => .ok []
  | some .null => .ok []
  | some (.array items) => .ok items
  | some value => .error (.notList key value)

/-- The name of the class that an entry describes. -/
def className? (entry : Json) : Option Json :=
  (entry.field? "name").filter fun name => !name.isEmpty

def classNames (api : Api) : Except Error (List Json) := do
  return (← api.items classesKey).filterMap className?

end Api

end EngineBindings
