/-
  EngineBindings/Api/Catalog.lean
  ===============================
  **Collecting the enums of an API.**

  Every enum of the document becomes a definition: those without an owner in the order of
  their list, those of a class under the name of the class.  A class that is described twice
  keeps its first place and the enums of its last entry with any.  An entry without a name is
  passed over with a warning.
-/
import EngineBindings.Api.Basic
import EngineBindings.Enum.Definition
import EngineBindings.Log.Record

namespace EngineBindings

structure EnumCatalog where
  /-- The enums that no class owns. -/
  globals : List Enum.Definition
  /-- The enums of each class that has any. -/
  classes : Dictionary Json (List Enum.Definition)

namespace EnumCatalog

def classEnumCount (enums : EnumCatalog) : Nat :=
  enums.classes.foldl (fun count (_, definitions) => count + definitions.length) 0

end EnumCatalog

namespace Api

def definitions (entries : List Json) : Except Error (List Enum.Definition) :=
  (entries.mapM Enum.Definition.ofJson).mapError .enum

/-- The definitions of the enums of a class; none if its entry lists no enum. -/
def classDefinitions? (entry : Json) : Except Error (Option (List Enum.Definition)) := do
  match (entry.field? "enums").filter fun enums => !enums.isEmpty with
  | none => return none
  | some enums =>
    match enums.elements? with
    | some entries => return some (← definitions entries)
    | none => throw (.enumsNotWalkable enums)

/-- The warning for an entry without a name. -/
def namelessEntry (entry : Json) : Log.Record :=
  Log.warning Log.runLogger ("Skipping class entry without a name: " ++ entry.literal)

/-- The dictionary of classes with the entries of a list added. -/
def addClasses (classes : Dictionary Json (List Enum.Definition)) :
    List Json → List Log.Record × Except Error (Dictionary Json (List Enum.Definition))
  | [] => ([], .ok classes)
  | entry :: rest =>
    match className? entry with
    | none =>
      let (log, result) := addClasses classes rest
      (namelessEntry entry :: log, result)
    | some name =>
      match classDefinitions? entry with
      | .error e => ([], .error e)
      | .ok none => addClasses classes rest
      | .ok (some definitions) =>
        if name.isKey then addClasses (Dictionary.insert name definitions classes) rest
        else ([], .error (.nameNotKey name))

/-- The enums of an API, with the warnings given on the way. -/
def catalog (api : Api) : List Log.Record × Except Error EnumCatalog :=
  match api.items globalEnumsKey >>= definitions with
  | .error e => ([], .error e)
  | .ok globals =>
    match api.items classesKey with
    | .error e => ([], .error e)
    | .ok entries =>
      let (log, classes) := addClasses [] entries
      (log, classes.map fun classes => ⟨globals, classes⟩)

end Api

end EngineBindings
