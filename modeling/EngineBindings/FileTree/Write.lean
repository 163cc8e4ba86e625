/-
  EngineBindings/FileTree/Write.lean
  ==================================
  **Writing a text file whole.**

  A file is never written in place: its new bytes are prepared beside it and then take its
  place in one step, so a write either does all of its work or leaves every file as it was.
  A file whose text is already the wanted one, line endings apart, is left alone.

  The only trace that a failed write may leave are directories that it made above the file.
-/
import EngineBindings.FileTree.Basic
import EngineBindings.FileTree.Encoding
import EngineBindings.Log.Record
import EngineBindings.Text.Newline

namespace EngineBindings

structure WriteOptions where
  encoding : Encoding := .utf8
  /-- Make the missing directories above the file. -/
  ensureParents : Bool := true
  /-- The permission bits of the file; without any, only its owner may use it. -/
  mode : Option Int := some FileTree.defaultMode
  /-- Tell what is done. -/
  log : Bool := true
  /-- Leave a file alone whose text is the wanted one. -/
  skipUnchanged : Bool := true
  /-- Only tell what would be done. -/
  dryRun : Bool := false

/-- What a write leaves behind: the tree, its records, and whether a file was written. -/
structure WriteOutcome where
  tree : FileTree
  log : List Log.Record
  result : Except FileTree.Error Bool

namespace FileTree

/-! ### Permission bits -/

/-- The permission bits of a file that only its owner may use. -/
def privateMode : Nat := 0o600

/-- The permission bits of a number: its last twelve bits, if it fits a signed word of 32
    bits. -/
def permissionBits (mode : Int) : Except Error Nat :=
  if -2147483648 ≤ mode ∧ mode ≤ 2147483647 then .ok (mode % 0o10000).toNat
  else .error .modeOutOfRange

def modeFor (options : WriteOptions) : Except Error Nat :=
  match options.mode with
  | some mode => permissionBits mode
  | none => .ok privateMode

/-! ### The text that is there -/

def readText? (tree : FileTree) (path : Path) (encoding : Encoding) :
    Except Error (Option String) :=
  match tree.readBytes path with
  | .ok bytes =>
    match encoding.decode? bytes with
    | some text => .ok (some text)
    | none => .error .undecodable
  | .error .notFound => .ok none
  | .error e => .error e

/-- Whether a file holds a text already, line endings apart. -/
def holdsText (tree : FileTree) (path : Path) (encoding : Encoding) (content : String) :
    Except Error Bool :=
  (tree.readText? path encoding).map fun old => old.map Text.unixNewlines = some content

/-! ### Preparing a file -/

/-- A number with zeros before it up to eight digits. -/
def eightDigits (n : Nat) : String :=
  let digits := Nat.toDigits 10 n
  String.ofList (List.replicate (8 - digits.length) '0' ++ digits)

/-- The name of a prepared file: the name of the file between two dots, and a number. -/
def preparedName (name : String) (n : Nat) : String :=
  "." ++ name ++ "." ++ eightDigits n

/-- The number of bytes that the name of a prepared file has more than the file's own, and so
    the number that its path has more. -/
def preparedNameBytes : Nat := 10

/-- Where a file is prepared: under the first name in its directory that is not taken. -/
def preparedLocation (tree : FileTree) (directory : Location) (name : String) : Location :=
  let candidate (n : Nat) : Location := directory ++ [preparedName name n]
  let free := (List.range (tree.nodes.length + 1)).find? fun n =>
    (tree.node? (candidate n)).isNone
  candidate (free.getD 0)

/-- Where the file of a path is prepared, if its directory is there and can hold the name.
    The directory is found from the root without walking through the names that a `..` takes
    away, so the length that counts is that of the straight path. -/
def preparedAt (tree : FileTree) (path : Path) : Except Error Location := do
  if path.straightParent.holdsNull || path.name.toList.contains '\x00' then throw .nullInPath
  if maxPathBytes < path.straight.text.utf8ByteSize + preparedNameBytes then throw .nameTooLong
  let directory ← tree.locate path.straightParent
  match tree.node? directory with
  | some .directory =>
    if maxNameBytes < path.name.utf8ByteSize + preparedNameBytes then throw .nameTooLong
    else pure (tree.preparedLocation directory path.name)
  | some (.file _ _) => throw .notDirectory
  | none => throw .notFound

/-- The tree with a file of the bytes of a text put in place.  The file is prepared beside its
    place and then moved there; when that fails, the prepared file is removed. -/
def placeText (tree : FileTree) (path : Path) (content : String) (options : WriteOptions) :
    FileTree × Except Error Unit :=
  match tree.preparedAt path with
  | .error e => (tree, .error e)
  | .ok prepared =>
    let opened := tree.insert prepared (.file .empty privateMode)
    match options.encoding.encode? content with
    | none => (opened.erase prepared, .error .unencodable)
    | some bytes =>
      match modeFor options with
      | .error e => (opened.erase prepared, .error e)
      | .ok mode =>
        let written := opened.insert prepared (.file bytes mode)
        match written.moveFile prepared path with
        | .error e => (written.erase prepared, .error e)
        | .ok moved => (moved, .ok ())

/-! ### Writing -/

def writeLog (options : WriteOptions) (record : Log.Record) : List Log.Record :=
  if options.log then [record] else []

/-- Whether a write may leave the file alone. -/
def isCurrent (tree : FileTree) (path : Path) (content : String) (options : WriteOptions) :
    Except Error Bool :=
  if options.skipUnchanged then tree.holdsText path options.encoding content else .ok false

def withParents (tree : FileTree) (path : Path) (options : WriteOptions) :
    FileTree × Except Error Unit :=
  if options.ensureParents then tree.ensureDirectory path.parent else (tree, .ok ())

/-- A text written to a file with unix line endings. -/
def write (tree : FileTree) (path : Path) (text : String) (options : WriteOptions := {}) :
    WriteOutcome :=
  if options.dryRun then
    ⟨tree, writeLog options (Log.info Log.filesLogger ("[dry-run] write " ++ path.text)),
      .ok false⟩
  else
    let content := Text.unixNewlines text
    match tree.withParents path options with
    | (tree, .error e) => ⟨tree, [], .error e⟩
    | (tree, .ok ()) =>
      match tree.isCurrent path content options with
      | .error e => ⟨tree, [], .error e⟩
      | .ok true =>
        ⟨tree, writeLog options
          (Log.debug Log.filesLogger ("[skip] " ++ path.text ++ " (unchanged)")), .ok false⟩
      | .ok false =>
        match tree.placeText path content options with
        | (tree, .error e) => ⟨tree, [], .error e⟩
        | (tree, .ok ()) =>
          ⟨tree, writeLog options (Log.info Log.filesLogger ("[write] " ++ path.text)),
            .ok true⟩

end FileTree

end EngineBindings
