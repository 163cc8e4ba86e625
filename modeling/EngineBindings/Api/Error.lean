/-
  EngineBindings/Api/Error.lean
  =============================
  **What can be wrong with the description of an API.**

  Most causes are faults of the content, and a run reports them as such.  A few values are of
  a kind that no step of the program provides for; those end the run.
-/
import EngineBindings.Enum.Error

namespace EngineBindings.Api

/-- Why the description of an API is refused. -/
inductive Error where
  /-- A part that lists things is no list. -/
  | notList (key : String) (value : Json)
  | enum (error : Enum.Error)
  /-- The enums of a class cannot be walked over. -/
  | enumsNotWalkable (value : Json)
  /-- A list or an object stands as the name of a class. -/
  | nameNotKey (name : Json)

namespace Error

/-- Whether the cause is a fault of the content that a run reports.  The other causes end
    the run. -/
def isReported : Error → Bool
  | notList _ _ => true
  | enum error => error.isReported
  | enumsNotWalkable _ => false
  | nameNotKey _ => false

/-- The wording of a cause; the causes without words of their own have none. -/
def message? : Error → Option String
  | notList key value =>
    some ("API section '" ++ key ++ "' must be a list, got " ++ value.typeWord)
  | enum error => error.message?
  | _ => none

end Error

end EngineBindings.Api
