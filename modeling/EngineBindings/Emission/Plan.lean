/-
  EngineBindings/Emission/Plan.lean
  =================================
  **Which module goes to whom.**

  The enums without an owner go to one module, the enums of each class to the module of the
  class.  Two classes may have one module name; the first keeps the module and the other is
  passed over.  The module of the enums without an owner is taken from the start, whether or
  not there are any.

  The plan is drawn up from the names alone, before anything is written: one step for each
  module, and one for each class that is passed over.
-/
import EngineBindings.Enum.Definition
import EngineBindings.Naming.ModuleName

namespace EngineBindings.Emission

/-- The module names and the templates of an emission. -/
structure Settings where
  /-- The template of one enum. -/
  enumTemplate : String := "enum.rs.j2"
  /-- The template of a module. -/
  moduleTemplate : String := "enums_module.rs.j2"
  /-- The module of the enums that no class owns. -/
  globalModule : String := "global"

/-- How the owner of the enums without an owner is called. -/
def globalOwner : String := "global scope"

/-- A step of an emission. -/
inductive Step where
  | write (module owner : String) (definitions : List Enum.Definition)
  /-- The module of a class belongs to another owner. -/
  | passOver (holder className module : String)
  /-- A class whose name is no text has no module. -/
  | refuse (name : Json)

/-- The steps for a list of classes; `holders` are the owners of the modules that are
    taken. -/
def planClasses (holders : Dictionary String String) :
    List (Json × List Enum.Definition) → List Step
  | [] => []
  | (_, []) :: rest => planClasses holders rest
  | (.string name, definitions) :: rest =>
    let module := Naming.moduleName name
    match Dictionary.get? module holders with
    | some holder => .passOver holder name module :: planClasses holders rest
    | none =>
      .write module name definitions :: planClasses (Dictionary.insert module name holders) rest
  | (name, _) :: _ => [.refuse name]

/-- The steps for the enums without an owner and those of the classes. -/
def plan (globalModule : String) (globals : List Enum.Definition)
    (classes : Dictionary Json (List Enum.Definition)) : List Step :=
  (if globals.isEmpty then [] else [.write globalModule globalOwner globals]) ++
    planClasses [(globalModule, globalOwner)] classes

/-- The modules that a row of steps writes, in order. -/
def modulesOf (steps : List Step) : List String :=
  steps.filterMap fun
    | .write module _ _ => some module
    | _ => none

end EngineBindings.Emission
