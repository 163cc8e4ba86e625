/-
  EngineBindings/CommandLine/Run.lean
  ===================================
  **A whole run.**

  A run sets up the log, opens the templates, reads the API, collects its enums, prints the
  types that are asked for and writes the modules.  Each stage that fails ends the run with an
  exit code of its own; nothing is written before all stages but the last have succeeded.

  A few failures have no exit code: the log that cannot be set up, an output directory that is
  no path, an API or a type that is nested too deeply, and values of the API that no step
  provides for.
  They come out of the run as they are.
-/
import EngineBindings.Api.ClassSet
import EngineBindings.Api.Catalog
import EngineBindings.Api.Load
import EngineBindings.CommandLine.Arguments
import EngineBindings.Emission.Emitter
import EngineBindings.RustType.Resolver

namespace EngineBindings.CommandLine

/-! ### Outcomes -/

/-- What a run leaves behind: the session, what it printed, and its exit code or the failure
    that came out of it. -/
structure RunOutcome where
  session : Session
  output : String
  exit : Except Failure Nat

/-- The exit code when the templates cannot be opened. -/
def templatesExit : Nat := 1

/-- The exit code when the file of the API cannot be read. -/
def unreadableExit : Nat := 2

/-- The exit code when the file of the API holds no API, or a malformed one. -/
def malformedExit : Nat := 3

/-- The exit code when the modules cannot be written. -/
def emissionExit : Nat := 4

/-- Whether a failure to read the API concerns its file, and not what the file holds. -/
def isUnreadable : Failure → Bool
  | .file e => e.isOfTree
  | _ => false

/-- Whether a failure to read the API is none that a run reports. -/
def endsRun : Failure → Bool
  | .json .tooDeep => true
  | _ => false

/-! ### Stages -/

/-- The line that shows the type that a name is resolved to. -/
def resolvedLine (name : String) (type : RustType) : String :=
  name ++ " -> " ++ type.text ++ " (" ++ type.kind.word ++ ")\n"

/-- The lines for a row of type names, up to the first that is missing or whose type is
    nested too deeply. -/
def resolvedLines (resolver : Resolver) : List Value → String × Except Failure Unit
  | [] => ("", .ok ())
  | .text name :: rest =>
    let type := resolver.resolve name
    if type.isTooDeep then ("", .error .typeTooDeep)
    else
      let (lines, result) := resolvedLines resolver rest
      (resolvedLine name type ++ lines, result)
  | .nothing :: _ => ("", .error .missingText)

/-- The directory that a text names, seen from the working directory.  A name that no path may
    hold is an error, even if the path leads out of it again. -/
def resolveDirectory (session : Session) (text : String) : Except FileTree.Error Path :=
  let path := Path.ofText text
  if path.holdsNull then .error .nullInPath else .ok (session.directory.resolve path)

def outputDirectory (session : Session) : Value → Except Failure Path
  | .text text => (resolveDirectory session text).mapError .file
  | .nothing => .error .missingText

/-- The templates that a run uses. -/
def openTemplates (session : Session) (arguments : Arguments) :
    List Log.Record × Except FileTree.Error Template.Library :=
  match arguments.templatesDir.bind Value.text? with
  | none => Template.Library.forDirectory? session.tree none
  | some text =>
    match resolveDirectory session text with
    | .error e => ([], .error e)
    | .ok directory => Template.Library.forDirectory? session.tree (some directory)

/-- What a run tells about the API that it has read. -/
def summary (classes : ClassSet) (enums : EnumCatalog) : List Log.Record :=
  [Log.info Log.runLogger ("Loaded " ++ toString classes.size ++ " engine class(es)"),
   Log.info Log.runLogger
    ("Built " ++ toString enums.globals.length ++ " global enum(s) and " ++
      toString enums.classEnumCount ++ " class-local enum(s) across " ++
      toString enums.classes.length ++ " class(es)")]

section

variable (arguments : Arguments)

/-- The end of a run that gives up a stage, with a word on why. -/
def giveUp (session : Session) (output message : String) (failure : Failure) (code : Nat) :
    RunOutcome :=
  ⟨session.tell [Log.failed Log.runLogger message failure], output, .ok code⟩

/-- The last stage: the modules are written. -/
def writeStage (session : Session) (output : String) (emitter : Emitter)
    (enums : EnumCatalog) : RunOutcome :=
  let outcome := emitter.writeModules session enums.globals enums.classes
  match outcome.result with
  | .error failure =>
    giveUp outcome.session output "Failed to generate files" failure emissionExit
  | .ok _ =>
    if arguments.dryRun then
      ⟨outcome.session.tell
        [Log.info Log.runLogger "Dry-run complete (no files written)."], output, .ok 0⟩
    else ⟨outcome.session, output, .ok 0⟩

/-- The stages after the API is read from a file: its enums are collected and its types
    resolved. -/
def collectStage (session : Session) (outputDir : Path) (templates : Template.Library)
    (file : String) (api : Api) : RunOutcome :=
  let malformed (session : Session) (e : Api.Error) : RunOutcome :=
    if e.isReported then
      giveUp session "" ("Malformed content in API dump " ++ file) (.api e) malformedExit
    else ⟨session, "", .error (.api e)⟩
  match ClassSet.ofApi api with
  | .error e => malformed session e
  | .ok classes =>
    let (log, collected) := api.catalog
    let session := session.tell log
    match collected with
    | .error e => malformed session e
    | .ok enums =>
      let session := session.tell (summary classes enums)
      let settings : Settings := {}
      let emitter : Emitter :=
        { directory := outputDir
          templates
          settings := { globalModule := settings.globalModule }
          dryRun := arguments.dryRun }
      match resolvedLines { knows := classes.contains, settings } arguments.resolve with
      | (output, .error failure) => ⟨session, output, .error failure⟩
      | (output, .ok ()) => writeStage arguments session output emitter enums

/-- The stages after the templates are opened: the API is read. -/
def loadStage (session : Session) (outputDir : Path) (templates : Template.Library)
    (file : String) : RunOutcome :=
  match Api.load session.tree session.directory (.ofText file) with
  | .error failure =>
    if isUnreadable failure then
      giveUp session "" ("Failed to read API dump " ++ file) failure unreadableExit
    else if endsRun failure then ⟨session, "", .error failure⟩
    else giveUp session "" ("API dump " ++ file ++ " is not valid") failure malformedExit
  | .ok api => collectStage arguments session outputDir templates file api

/-- The stages after the log is set up: the templates are opened. -/
def templateStage (session : Session) (outputDir : Path) : RunOutcome :=
  let (log, opened) := openTemplates session arguments
  let session := session.tell log
  match opened with
  | .error e =>
    giveUp session "" "Failed to initialize templating" (.file e) templatesExit
  | .ok templates =>
    match arguments.api with
    | .text file => loadStage arguments session outputDir templates file
    | .nothing => ⟨session, "", .error .missingText⟩

def run (session : Session) : RunOutcome :=
  let setup : Log.Setup :=
    { level := arguments.level
      format := arguments.logFormat.text?.getD ""
      file := (arguments.logFile.bind Value.text?).getD "" }
  match session.configure setup with
  | (session, .error failure) => ⟨session, "", .error failure⟩
  | (session, .ok ()) =>
    match outputDirectory session arguments.outputDir with
    | .error failure => ⟨session, "", .error failure⟩
    | .ok outputDir => templateStage arguments session outputDir

end

end EngineBindings.CommandLine
