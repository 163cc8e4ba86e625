/-
  EngineBindings/FileTree/Basic.lean
  ==================================
  **Trees of files.**

  Everything that a run leaves behind is a tree of files: directories, and files with bytes
  and permission bits.  A tree is a dictionary from locations to nodes, and `node?` is the
  one view of it: two trees with the same nodes are the same tree to every operation.
  Permission bits are kept and never asked: every operation may read and write what it reaches.

  A path is walked from the root.  Each name on the way has to be in a directory, `..` goes
  back, and only the last name may be missing; so a failure always says which rule the path
  broke.
-/
import EngineBindings.Dictionary
import EngineBindings.FileTree.Path

namespace EngineBindings

/-- Where a node is: the names from the root, none of them `..`. -/
abbrev Location := List String

inductive Node where
  | directory
  | file (bytes : ByteArray) (mode : Nat)

/-- Two files are one node when they have the same bytes and permission bits. -/
instance : DecidableEq Node
  | .directory, .directory => isTrue rfl
  | .directory, .file _ _ => isFalse nofun
  | .file _ _, .directory => isFalse nofun
  | .file bytes mode, .file bytes' mode' =>
    match ByteArray.instDecidableEq bytes bytes', Nat.decEq mode mode' with
    | isTrue sameBytes, isTrue sameMode => isTrue (by rw [sameBytes, sameMode])
    | isFalse other, _ => isFalse (by simp [other])
    | _, isFalse other => isFalse (by simp [other])

structure FileTree where
  nodes : Dictionary Location Node

namespace FileTree

/-- Why an operation on files fails. -/
inductive Error where
  | notFound
  | exists
  | isDirectory
  | notDirectory
  | nameTooLong
  /-- What is to be replaced is a directory in use, the root or the one above another. -/
  | busy
  /-- The path holds the null character. -/
  | nullInPath
  /-- Permission bits are asked for by a number that no machine word holds. -/
  | modeOutOfRange
  /-- The bytes of a file are no text. -/
  | undecodable
  /-- A text has a character that the encoding cannot write. -/
  | unencodable
deriving DecidableEq, Repr

/-- Whether the cause lies in the tree, and not in the text of a path or of a file. -/
def Error.isOfTree : Error → Bool
  | .notFound => true
  | .exists => true
  | .isDirectory => true
  | .notDirectory => true
  | .nameTooLong => true
  | .busy => true
  | .nullInPath => false
  | .modeOutOfRange => false
  | .undecodable => false
  | .unencodable => false

def empty : FileTree := ⟨[]⟩

/-! ### Nodes -/

/-- The node at a location; the root is a directory. -/
def node? (tree : FileTree) (location : Location) : Option Node :=
  if location = [] then some .directory else Dictionary.get? location tree.nodes

def insert (tree : FileTree) (location : Location) (node : Node) : FileTree :=
  ⟨Dictionary.insert location node tree.nodes⟩

def erase (tree : FileTree) (location : Location) : FileTree :=
  ⟨Dictionary.erase location tree.nodes⟩

theorem node?_insert_self (tree : FileTree) {location : Location} (node : Node)
    (below : location ≠ []) : (tree.insert location node).node? location = some node := by
  simp [node?, insert, below, Dictionary.get?_insert_self]

theorem node?_insert_of_ne (tree : FileTree) {location other : Location} (node : Node)
    (h : location ≠ other) : (tree.insert location node).node? other = tree.node? other := by
  simp [node?, insert, Dictionary.get?_insert_of_ne h]

/-! ### Walking -/

/-- The longest name that a directory can hold, in bytes. -/
def maxNameBytes : Nat := 255

def maxPathBytes : Nat := 4095

/-- The location that a row of names leads to from `here`. -/
def walk (tree : FileTree) (here : Location) : List String → Except Error Location
  | [] => .ok here
  | part :: rest =>
    match tree.node? here with
    | some .directory =>
      if part = ".." then walk tree here.dropLast rest
      else if maxNameBytes < part.utf8ByteSize then .error .nameTooLong
      else walk tree (here ++ [part]) rest
    | some (.file _ _) => .error .notDirectory
    | none => .error .notFound

/-- The location of a path that is seen from a directory.  Only the path itself may be too
    long, and not the way to the directory. -/
def locateFrom (tree : FileTree) (directory path : Path) : Except Error Location :=
  if path.holdsNull then .error .nullInPath
  else if maxPathBytes < path.text.utf8ByteSize then .error .nameTooLong
  else walk tree [] (directory.under path).parts

def locate (tree : FileTree) (path : Path) : Except Error Location :=
  tree.locateFrom .root path

def lookupFrom (tree : FileTree) (directory path : Path) : Except Error Node := do
  match tree.node? (← tree.locateFrom directory path) with
  | some node => pure node
  | none => throw .notFound

def lookup (tree : FileTree) (path : Path) : Except Error Node :=
  tree.lookupFrom .root path

/-- Whether a path leads to a directory.  A path that leads nowhere does not; a name that no
    directory can hold is an error of its own. -/
def isDirectory (tree : FileTree) (path : Path) : Except Error Bool :=
  match tree.lookup path with
  | .ok .directory => .ok true
  | .error .nameTooLong => .error .nameTooLong
  | _ => .ok false

/-! ### Directories -/

/-- The tree with one more directory, in a directory that exists. -/
def makeDirectory (tree : FileTree) (path : Path) : Except Error FileTree := do
  let location ← tree.locate path
  match tree.node? location with
  | some _ => throw .exists
  | none => pure (tree.insert location .directory)

/-- The tree with the directory of a row of names, last name first, and the missing
    directories above it.  An attempt that fails keeps the directories it has made. -/
def ensureParts (tree : FileTree) (slashes : Nat) :
    List String → FileTree × Except Error Unit
  | [] => (tree, .ok ())
  | part :: above =>
    let path : Path := ⟨slashes, (part :: above).reverse⟩
    match tree.makeDirectory path with
    | .ok tree => (tree, .ok ())
    | .error .notFound =>
      match ensureParts tree slashes above with
      | (tree, .error e) => (tree, .error e)
      | (tree, .ok ()) => settle tree path (tree.makeDirectory path)
    | .error e => settle tree path (.error e)
where
  /-- The outcome of an attempt to make a directory: one that is there already is as good. -/
  settle (tree : FileTree) (path : Path) : Except Error FileTree → FileTree × Except Error Unit
    | .ok made => (made, .ok ())
    | .error e =>
      match tree.isDirectory path with
      | .ok true => (tree, .ok ())
      | .ok false => (tree, .error e)
      | .error e => (tree, .error e)

def ensureDirectory (tree : FileTree) (path : Path) : FileTree × Except Error Unit :=
  ensureParts tree path.slashes path.parts.reverse

/-! ### Files -/

def readBytesFrom (tree : FileTree) (directory path : Path) : Except Error ByteArray := do
  match ← tree.lookupFrom directory path with
  | .file bytes _ => pure bytes
  | .directory => throw .isDirectory

def readBytes (tree : FileTree) (path : Path) : Except Error ByteArray :=
  tree.readBytesFrom .root path

/-- The tree with a file of given bytes and permission bits put in the place of whatever file
    was there. -/
def replaceFile (tree : FileTree) (path : Path) (bytes : ByteArray) (mode : Nat) :
    Except Error FileTree := do
  let location ← tree.locate path
  match tree.node? location with
  | some .directory => throw .isDirectory
  | _ => pure (tree.insert location (.file bytes mode))

/-- The tree with the file at a location moved to a path, in the place of whatever file was
    there.  The path has to end in a name of its own. -/
def moveFile (tree : FileTree) (source : Location) (path : Path) : Except Error FileTree :=
  match tree.node? source with
  | some (.file bytes mode) => do
    let _ ← tree.locate path
    if path.name = ".." || path.parts = [] then throw .busy
    return (← tree.replaceFile path bytes mode).erase source
  | some .directory => .error .isDirectory
  | none => .error .notFound

/-- The permission bits of a file that is made without any being asked for. -/
def defaultMode : Nat := 0o644

/-- The tree with an empty file, and its location.  A file that is there keeps its permission
    bits. -/
def truncateFile (tree : FileTree) (path : Path) : Except Error (FileTree × Location) := do
  let location ← tree.locate path
  match tree.node? location with
  | some .directory => throw .isDirectory
  | some (.file _ mode) => pure (tree.insert location (.file .empty mode), location)
  | none => pure (tree.insert location (.file .empty defaultMode), location)

def appendBytes (tree : FileTree) (location : Location) (bytes : ByteArray) : FileTree :=
  match tree.node? location with
  | some (.file old mode) => tree.insert location (.file (old ++ bytes) mode)
  | _ => tree

end FileTree

end EngineBindings
