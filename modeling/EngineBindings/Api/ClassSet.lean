/-
  EngineBindings/Api/ClassSet.lean
  ================================
  **The classes of an engine.**

  To resolve a type name it is enough to know which names are classes.  A class set holds
  each name once, in the order in which the names first came; nothing that it answers
  depends on that order.
-/
import EngineBindings.Api.Basic

namespace EngineBindings

/-- The names of an engine's classes, each once. -/
structure ClassSet where
  names : List Json

namespace ClassSet

/-- The set of a list of names; each has to be a value that can be looked up. -/
def ofNames (names : List Json) : Except Api.Error ClassSet :=
  match names.find? fun name => !name.isKey with
  | some bad => .error (.nameNotKey bad)
  | none => .ok ⟨names.eraseDups⟩

def ofApi (api : Api) : Except Api.Error ClassSet := do
  ofNames (← api.classNames)

def contains (classes : ClassSet) (name : String) : Bool :=
  classes.names.any (· == .string name)

def size (classes : ClassSet) : Nat :=
  classes.names.length

end ClassSet

end EngineBindings
