/-
  EngineBindings/Session.lean
  ===========================
  **Where things happen.**

  A run works on files and tells what it does, and the two are not apart: a log file is a
  file, so every record that is told may change the tree, and every change of the tree may
  take a log file away.  A session holds both, with all that was told and shown so far.
-/
import EngineBindings.Log.Routing

namespace EngineBindings

/-- The files, the working directory, and the log. -/
structure Session where
  tree : FileTree
  directory : Path
  routing : Log.Routing := {}
  /-- How the log describes a failure. -/
  describe : Failure → String
  /-- The records that were told. -/
  told : List Log.Record := []
  /-- The lines that the log has shown. -/
  shown : List (Log.Target × String) := []

namespace Session

/-- The session after a row of records was told. -/
def tell (session : Session) (records : List Log.Record) : Session :=
  let lines := session.routing.deliverAll session.describe records
  { session with
    tree := Log.appendLines session.tree lines
    told := session.told ++ records
    shown := session.shown ++ lines }

/-- The session whose files are those of another tree.  A log file that was replaced takes no
    more lines. -/
def withTree (session : Session) (tree : FileTree) : Session :=
  let inPlace (handler : Log.Handler) : Bool :=
    match handler.target with
    | .stream _ => true
    | .file location => tree.node? location = session.tree.node? location
  let routing := { session.routing with handlers := session.routing.handlers.filter inPlace }
  { session with tree, routing }

/-- The log of a session set up anew, with nothing told or shown yet. -/
def configure (session : Session) (setup : Log.Setup) : Session × Except Failure Unit :=
  let (routing, tree, result) :=
    session.routing.configure session.tree session.directory setup
  ({ session with routing, tree, told := [], shown := [] }, result)

end Session

end EngineBindings
