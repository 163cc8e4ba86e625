/-
  EngineBindings/Log/Routing.lean
  ===============================
  **Where records go.**

  Records are shown by handlers: one for a stream, and one for a log file if there is one.
  Setting up the log replaces all handlers and levels at once, so that only the last setup
  that succeeded decides about a record; a setup that fails leaves no handler behind.

  A record passes two levels, that of its logger and that of the handler.  The loggers of the
  package have a level of their own and may be cut off from the handlers; a record that meets
  no handler is shown on the standard error if it tells of something that may be wrong.
-/
import EngineBindings.FileTree.Basic
import EngineBindings.Log.Format

namespace EngineBindings.Log

/-! ### Handlers -/

/-- Where lines are written. -/
inductive Target where
  /-- A stream of the console, by number. -/
  | stream (number : Nat)
  | file (location : Location)
deriving DecidableEq, Repr

def standardError : Target := .stream 0

/-- What shows records: it takes those of its level and above, in its format. -/
structure Handler where
  target : Target
  level : Int
  format : Format

/-- The handler of the records that meet no other: it shows what may be wrong as it is. -/
def lastResort : Handler := ⟨standardError, warningLevel, messageFormat⟩

/-- The handlers and levels in force. -/
structure Routing where
  handlers : List Handler := []
  /-- The level of every logger without one of its own. -/
  rootLevel : Int := warningLevel
  /-- The level of the loggers of the package; zero stands for the level of all loggers. -/
  packageLevel : Int := 0
  /-- Whether the records of the package reach the handlers. -/
  propagates : Bool := true

/-! ### Setting up -/

/-- How the log is to be set up. -/
structure Setup where
  level : LevelChoice := .standard
  /-- The text of the format; an empty one stands for the standard format. -/
  format : String := ""
  /-- The log file; an empty text stands for none. -/
  file : String := ""
  stream : Target := standardError
  propagates : Bool := true

def Setup.formatText (setup : Setup) : String :=
  if setup.format = "" then standardFormat else setup.format

/-- The tree with the log file emptied, and the place of the file. -/
def Setup.openFile (setup : Setup) (tree : FileTree) (directory : Path) :
    Except FileTree.Error (FileTree × List Target) :=
  if setup.file = "" then .ok (tree, [])
  else do
    let (tree, location) ← tree.truncateFile (directory.resolve (.ofText setup.file))
    return (tree, [.file location])

namespace Routing

def dropHandlers (routing : Routing) : Routing :=
  { routing with handlers := [] }

/-- The log set up anew.  A log file is emptied, and its path is seen from a working
    directory. -/
def configure (routing : Routing) (tree : FileTree) (directory : Path) (setup : Setup) :
    Routing × FileTree × Except Failure Unit :=
  let routing := routing.dropHandlers
  match setup.level.resolve with
  | .error e => (routing, tree, .error e)
  | .ok level =>
    let routing := { routing with rootLevel := level }
    match Format.ofText setup.formatText with
    | .error e => (routing, tree, .error e)
    | .ok format =>
      match setup.openFile tree directory with
      | .error e => (routing, tree, .error (.file e))
      | .ok (tree, files) =>
        ({ handlers := (setup.stream :: files).map fun target => ⟨target, level, format⟩
           rootLevel := level
           packageLevel := level
           propagates := setup.propagates }, tree, .ok ())

/-! ### Delivering -/

/-- The level that a record of a logger has to reach. -/
def levelOf (routing : Routing) (logger : String) : Int :=
  if ofPackage logger && routing.packageLevel != 0 then routing.packageLevel
  else routing.rootLevel

/-- Whether a record passes the level of its logger; levels from zero down never do. -/
def admits (routing : Routing) (record : Record) : Bool :=
  0 < record.level && routing.levelOf record.logger ≤ record.level

def handlersOf (routing : Routing) (record : Record) : List Handler :=
  if routing.handlers.isEmpty || (ofPackage record.logger && !routing.propagates) then
    [lastResort]
  else routing.handlers

/-- The lines that a record gives, each with its target. -/
def deliver (routing : Routing) (describe : Failure → String) (record : Record) :
    List (Target × String) :=
  if routing.admits record then
    (routing.handlersOf record).filterMap fun handler =>
      if handler.level ≤ record.level then
        (handler.format.line? describe record).map (handler.target, ·)
      else none
  else []

def deliverAll (routing : Routing) (describe : Failure → String) (records : List Record) :
    List (Target × String) :=
  records.flatMap (routing.deliver describe)

end Routing

/-! ### Writing lines -/

/-- The text that goes to one stream. -/
def textOn (target : Target) (lines : List (Target × String)) : String :=
  String.join (lines.filterMap fun (place, line) => if place = target then some line else none)

def appendLines (tree : FileTree) (lines : List (Target × String)) : FileTree :=
  lines.foldl (fun tree (target, line) =>
    match target with
    | .stream _ => tree
    | .file location => tree.appendBytes location line.toUTF8) tree

end EngineBindings.Log
