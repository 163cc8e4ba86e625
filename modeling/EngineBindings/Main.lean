/-
  EngineBindings/Main.lean
  ========================
  **The program.**

  The program reads the files that a run may look at into a tree, runs, and writes what has
  changed back.  Everything that it decides is decided by the library; here are only the
  file system, the streams and the words for failures that have none of their own.
-/
import EngineBindings.CommandLine.Run

namespace EngineBindings.Program

open EngineBindings.CommandLine

/-! ### Words -/

/-- The words for a failure of a file. -/
def fileWords : FileTree.Error → String
  | .notFound => "no such file or directory"
  | .exists => "file exists"
  | .isDirectory => "is a directory"
  | .notDirectory => "not a directory"
  | .nameTooLong => "name too long"
  | .busy => "directory in use"
  | .nullInPath => "null character in path"
  | .modeOutOfRange => "permission bits out of range"
  | .undecodable => "bytes are not text"
  | .unencodable => "text cannot be encoded"

/-- The words for a failure of a template. -/
def templateWords : Template.Error → String
  | .notFound name => "template not found: " ++ name
  | .undecodable => "template is not text"
  | .malformed => "malformed template"
  | .reservedName => "loop in template assigns the name " ++ Template.loopName
  | .undefined => "undefined value in template"
  | .wrongType => "wrong type of value in template"
  | .noBlock => "template has no blocks to walk over"
  | .tooManyLevels => "too many levels in template"
  | .tooComplex => "template is too complex"
  | .tooDeep => "template is nested too deeply"

def words (failure : Failure) : String :=
  match failure with
  | .file e => fileWords e
  | .json .malformed => "malformed JSON"
  | .json .longInteger => "integer with too many digits"
  | .json .tooDeep => "JSON nested too deeply"
  | .template e => templateWords e
  | .classNameNotText name => "class name is no text: " ++ name.literal
  | .notLevel name => "not a level: " ++ name
  | .wrongLevelType name => "not a level: " ++ name
  | .typeTooDeep => "type nested too deeply"
  | .formatWithoutField => "log format names no field"
  | .missingText => "value of a switch is missing"
  | .notObject _ => failure.message?.getD ""
  | .api e => e.message?.getD "unexpected value in API"

/-- How the program is used. -/
def usage : String :=
  "usage: " ++ UsageError.programName ++ " --api FILE" ++
    String.join ((Switch.spellings.filter fun (s, _) => (Text.after? "--" s).isSome).map
      fun (s, switch) => " [" ++ s ++ (if switch.takesValue then " VALUE]" else "]"))

/-! ### Files -/

/-- The text of a location for the file system. -/
def locationText (location : Location) : String :=
  "/" ++ "/".intercalate location

/-- The tree with the node of a location, if the file system has one, and the nodes up to a
    depth below it. -/
def readBelow : Nat → FileTree → Location → IO FileTree
  | depth, tree, location => do
    let path := (← IO.currentDir) / locationText location
    if ← path.isDir then
      let tree := if location = [] then tree else tree.insert location .directory
      match depth with
      | 0 => return tree
      | depth + 1 =>
        (← path.readDir).foldlM (fun tree entry =>
          readBelow depth tree (location ++ [entry.fileName])) tree
    else if ← path.pathExists then
      return tree.insert location (.file (← IO.FS.readBinFile path) FileTree.defaultMode)
    else return tree

/-- The tree with everything on the way to a path, and the nodes up to a depth below it. -/
def readPath (directory : Path) (depth : Nat) (tree : FileTree) (text : String) :
    IO FileTree := do
  let parts := (directory.resolve (.ofText text)).parts
  let tree ← (List.range parts.length).foldlM (fun tree n =>
    readBelow 0 tree (parts.take n)) tree
  readBelow depth tree parts

/-- The files that a run may look at. -/
def readFiles (directory : Path) (arguments : Arguments) : IO FileTree := do
  let read (depth : Nat) (tree : FileTree) (value : Option Value) : IO FileTree :=
    (value.bind Value.text?).toList.foldlM (readPath directory depth) tree
  let tree ← read 0 .empty arguments.api
  let tree ← read 2 tree arguments.outputDir
  let tree ← read 8 tree arguments.templatesDir
  read 0 tree arguments.logFile

/-- The rights of one of the three groups of permission bits. -/
def rightsOf (bits : Nat) : IO.AccessRight :=
  { read := bits / 4 % 2 = 1, write := bits / 2 % 2 = 1, execution := bits % 2 = 1 }

/-- A node written to the file system. -/
def writeNode (location : Location) : Node → IO Unit
  | .directory => IO.FS.createDirAll (locationText location)
  | .file bytes mode => do
    let target := locationText location
    let prepared :=
      locationText (location.dropLast ++ ["." ++ location.getLast?.getD "" ++ ".new"])
    IO.FS.writeBinFile prepared bytes
    IO.setAccessRights prepared
      { user := rightsOf (mode / 64), group := rightsOf (mode / 8), other := rightsOf mode }
    IO.FS.rename prepared target

/-- The nodes of a tree that another tree does not have. -/
def changes (before after : FileTree) : List (Location × Node) :=
  after.nodes.filter fun (location, node) => before.node? location ≠ some node

/-! ### The program -/

/-- A run on the file system, and its exit code. -/
def runFor (arguments : Arguments) : IO UInt32 := do
  let directory := Path.ofText (← IO.currentDir).toString
  let tree ← readFiles directory arguments
  let outcome := run arguments { tree, directory, describe := words }
  (changes tree outcome.session.tree).forM fun (location, node) => writeNode location node
  IO.print outcome.output
  IO.eprint (Log.textOn Log.standardError outcome.session.shown)
  match outcome.exit with
  | .ok code => return UInt32.ofNat code
  | .error failure =>
    IO.eprintln (UsageError.programName ++ ": error: " ++ words failure)
    return 1

end EngineBindings.Program

/-- The command line of the program. -/
def main (arguments : List String) : IO UInt32 :=
  match EngineBindings.CommandLine.parse arguments with
  | .error .help => do
    IO.println EngineBindings.Program.usage
    return 0
  | .error (.usage e) => do
    IO.eprintln EngineBindings.Program.usage
    IO.eprintln e.text
    return 2
  | .ok arguments => EngineBindings.Program.runFor arguments
