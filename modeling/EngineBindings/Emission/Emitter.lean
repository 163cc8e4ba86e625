/-
  EngineBindings/Emission/Emitter.lean
  ====================================
  **Writing the modules of an API.**

  An emitter carries out the steps of a plan in order: it renders each module and writes it
  to its file in one directory.  The first failure ends the emission; the modules before it
  are complete, and nothing of the others has been touched.  A dry run renders everything and
  writes nothing.

  Templates are looked up when they are filled in and records are told as they arise, so a log
  file among the templates is seen as it is at that moment.
-/
import EngineBindings.Emission.Plan
import EngineBindings.FileTree.Write
import EngineBindings.Session
import EngineBindings.Template.Library

namespace EngineBindings

/-- What is needed to write modules: a directory, templates, and the settings. -/
structure Emitter where
  directory : Path
  templates : Template.Library := {}
  settings : Emission.Settings := {}
  dryRun : Bool := false

/-- What an emission leaves behind: the session, and the files of the modules in order. -/
structure EmissionOutcome where
  session : Session
  result : Except Failure (List Path)

namespace Emitter

/-! ### Rendering -/

def enumText (emitter : Emitter) (tree : FileTree) (definition : Enum.Definition) :
    Except Template.Error String :=
  emitter.templates.render tree emitter.settings.enumTemplate [("enum", definition.toJson)]

/-- The text of a module: a header for its owner, and its enums in order. -/
def moduleText (emitter : Emitter) (tree : FileTree) (owner : String)
    (definitions : List Enum.Definition) : Except Template.Error String := do
  let blocks ← definitions.mapM (emitter.enumText tree)
  emitter.templates.render tree emitter.settings.moduleTemplate
    [("owner", .string owner), ("blocks", .array (blocks.map .string))]

/-! ### Steps -/

def modulePath (emitter : Emitter) (module : String) : Path :=
  emitter.directory.join (module ++ ".rs")

/-- The warning for a class that is passed over. -/
def passedOver (holder className module : String) : Log.Record :=
  Log.warning Log.emissionLogger
    ("Classes " ++ holder ++ " and " ++ className ++ " map to the same module " ++ module ++
      "; skipping " ++ className)

/-- The records of a write that failed: one, if the cause lies in the tree. -/
def failedWrite (path : Path) (e : FileTree.Error) : List Log.Record :=
  if e.isOfTree then
    [Log.failed Log.emissionLogger ("Failed to write " ++ path.text) (.file e)]
  else []

def writeModule (emitter : Emitter) (session : Session) (module owner : String)
    (definitions : List Enum.Definition) : EmissionOutcome :=
  let path := emitter.modulePath module
  match emitter.moduleText session.tree owner definitions with
  | .error e => ⟨session, .error (.template e)⟩
  | .ok text =>
    let outcome := session.tree.write path text { dryRun := emitter.dryRun }
    let session := (session.withTree outcome.tree).tell outcome.log
    match outcome.result with
    | .error e => ⟨session.tell (failedWrite path e), .error (.file e)⟩
    | .ok _ => ⟨session, .ok [path]⟩

def carryOut (emitter : Emitter) (session : Session) : Emission.Step → EmissionOutcome
  | .write module owner definitions => emitter.writeModule session module owner definitions
  | .passOver holder className module =>
    ⟨session.tell [passedOver holder className module], .ok []⟩
  | .refuse name => ⟨session, .error (.classNameNotText name)⟩

/-- A row of steps carried out up to the first failure. -/
def carryOutAll (emitter : Emitter) (session : Session) : List Emission.Step → EmissionOutcome
  | [] => ⟨session, .ok []⟩
  | step :: rest =>
    let first := emitter.carryOut session step
    match first.result with
    | .error e => ⟨first.session, .error e⟩
    | .ok paths =>
      let others := emitter.carryOutAll first.session rest
      ⟨others.session, others.result.map (paths ++ ·)⟩

/-! ### Emissions -/

/-- The last record of an emission. -/
def complete (emitter : Emitter) : Log.Record :=
  Log.info Log.emissionLogger ("Generation complete under: " ++ emitter.directory.text)

/-- The tree with the directory of the modules, unless nothing is to be written. -/
def prepare (emitter : Emitter) (tree : FileTree) : FileTree × Except FileTree.Error Unit :=
  if emitter.dryRun then (tree, .ok ()) else tree.ensureDirectory emitter.directory

def writeModules (emitter : Emitter) (session : Session) (globals : List Enum.Definition)
    (classes : Dictionary Json (List Enum.Definition)) : EmissionOutcome :=
  let (tree, prepared) := emitter.prepare session.tree
  let session := session.withTree tree
  match prepared with
  | .error e => ⟨session, .error (.file e)⟩
  | .ok () =>
    let outcome := emitter.carryOutAll session
      (Emission.plan emitter.settings.globalModule globals classes)
    match outcome.result with
    | .error e => ⟨outcome.session, .error e⟩
    | .ok paths => ⟨outcome.session.tell [emitter.complete], .ok paths⟩

end Emitter

end EngineBindings
