/-
  EngineBindings/Failure.lean
  ===========================
  **Why a step of a run fails.**

  Each part of the library has causes of its own.  A run joins the parts, and a failure is the
  cause of whichever part it came from; a log record carries one to tell why a step was given
  up.
-/
import EngineBindings.Api.Error
import EngineBindings.FileTree.Basic
import EngineBindings.Json.Document
import EngineBindings.Template.Syntax

namespace EngineBindings

/-- Why a step of a run fails. -/
inductive Failure where
  | file (error : FileTree.Error)
  | json (error : Json.ReadError)
  /-- The file of an API holds a value that is no object. -/
  | notObject (path : Path)
  | api (error : Api.Error)
  | template (error : Template.Error)
  /-- The module of a class is asked for, and the name of the class is no text. -/
  | classNameNotText (name : Json)
  /-- A level is asked for by the name of a text that is no level. -/
  | notLevel (name : String)
  /-- A level is asked for by the name of something that is neither a number nor a text. -/
  | wrongLevelType (name : String)
  /-- A type that is to be shown is nested too deeply. -/
  | typeTooDeep
  /-- A format of log lines names no field. -/
  | formatWithoutField
  /-- A text is needed, and the command line gives nothing at all. -/
  | missingText

namespace Failure

/-- The wording of a failure; the failures without words of their own have none. -/
def message? : Failure → Option String
  | notObject path => some (path.text ++ ": expected a JSON object at top level")
  | api error => error.message?
  | template error => error.message?
  | _ => none

end Failure

end EngineBindings
