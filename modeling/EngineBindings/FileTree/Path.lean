/-
  EngineBindings/FileTree/Path.lean
  =================================
  **Paths.**

  A path is a row of names, read from the root or from the working directory.  Repeated
  slashes and the name `.` mean nothing and are dropped when a path is read; the name `..`
  stays, because what it means depends on the tree.  Two slashes at the start are kept apart
  from one.
-/

namespace EngineBindings

/-- A path: the slashes at its start, and its names. -/
structure Path where
  slashes : Nat
  parts : List String
deriving DecidableEq, Repr

namespace Path

def root : Path := ⟨1, []⟩

/-! ### Text -/

/-- The stretches between the slashes of a row of characters. -/
def splitSlashes : List Char → List (List Char)
  | [] => [[]]
  | c :: rest =>
    if c = '/' then [] :: splitSlashes rest
    else match splitSlashes rest with
      | [] => [[c]]
      | stretch :: others => (c :: stretch) :: others

/-- The names of a text: the stretches between slashes that are neither empty nor `.`. -/
def partsOf (text : String) : List String :=
  (splitSlashes text.toList).filterMap fun stretch =>
    if stretch = [] || stretch = ['.'] then none else some (String.ofList stretch)

/-- The number of slashes at the start of a text that a path remembers. -/
def leadingSlashes : List Char → Nat
  | '/' :: '/' :: '/' :: _ => 1
  | '/' :: '/' :: _ => 2
  | '/' :: _ => 1
  | _ => 0

def ofText (text : String) : Path :=
  ⟨leadingSlashes text.toList, partsOf text⟩

/-- The text of a path; the path of no names is the working directory. -/
def text (path : Path) : String :=
  if path.slashes = 0 ∧ path.parts = [] then "."
  else String.ofList (List.replicate path.slashes '/') ++ "/".intercalate path.parts

/-! ### Parts -/

/-- The path of a text seen from a directory; a text that starts at the root stands by
    itself. -/
def join (directory : Path) (text : String) : Path :=
  let path := ofText text
  if path.slashes = 0 then ⟨directory.slashes, directory.parts ++ path.parts⟩ else path

/-- The path of a path seen from a directory. -/
def under (directory path : Path) : Path :=
  if path.slashes = 0 then ⟨directory.slashes, directory.parts ++ path.parts⟩ else path

def parent (path : Path) : Path :=
  ⟨path.slashes, path.parts.dropLast⟩

def name (path : Path) : String :=
  path.parts.getLast?.getD ""

/-- A row of names with every `..` taking the name before it away. -/
def cancelParents (parts : List String) : List String :=
  parts.foldl (fun done part => if part = ".." then done.dropLast else done ++ [part]) []

/-- The directory of a path, without `..`. -/
def straightParent (path : Path) : Path :=
  ⟨path.slashes, cancelParents path.parent.parts⟩

/-- The path from the root, without `..` before its name. -/
def straight (path : Path) : Path :=
  ⟨max 1 path.slashes, path.straightParent.parts ++ [path.name]⟩

/-- The path from the root, without `..`, of a path seen from a working directory. -/
def resolve (directory path : Path) : Path :=
  ⟨1, cancelParents (directory.under path).parts⟩

/-- Whether some name of a path holds the character that no name may hold. -/
def holdsNull (path : Path) : Bool :=
  path.parts.any fun part => part.toList.contains '\x00'

end Path

end EngineBindings
