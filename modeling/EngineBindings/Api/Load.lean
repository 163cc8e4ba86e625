/-
  EngineBindings/Api/Load.lean
  ============================
  **Reading the description of an API from its file.**

  The file is UTF-8 and holds one JSON object.  What can go wrong is told apart by where it
  goes wrong: the file cannot be read, its bytes are no text, the text is no document, the
  document is no object.
-/
import EngineBindings.Api.Basic
import EngineBindings.Failure
import EngineBindings.FileTree.Encoding

namespace EngineBindings.Api

/-- The description of an API in a file, whose path is seen from a working directory. -/
def load (tree : FileTree) (directory path : Path) : Except Failure Api := do
  let bytes ← (tree.readBytesFrom directory path).mapError .file
  match Encoding.utf8.decode? bytes with
  | none => throw (.file .undecodable)
  | some text =>
    match ofJson? (← (Json.read text).mapError .json) with
    | some api => pure api
    | none => throw (.notObject path)

end EngineBindings.Api
