/-
  EngineBindings/Proofs/CommandLine/Run.lean
  ==========================================
  **What a run leaves alone.**

  Every stage of a run either ends it, with nothing but records told so far, or hands over to
  the next; only the last one writes modules.  So a run has one of two shapes (`Ends`), and the
  second ends with the exit code of a success or that of a failed emission
  (`exit_writeStage`).  A run that ends in any other way, and every dry run, therefore leaves
  all files and directories as they are, except for the log file that the arguments name
  (`run_keeps_files`).
-/
import EngineBindings.CommandLine.Run
import EngineBindings.Proofs.Emission.DryRun
import EngineBindings.Proofs.Log.Routing

namespace EngineBindings.CommandLine

open Session (Follows)

variable {arguments : Arguments} {session : Session} {outcome : RunOutcome}

/-! ### How a run ends -/

/-- The shapes of a run's end: before the last stage, with records told and nothing else, or in
    the last stage, which starts from such a session. -/
inductive Ends (arguments : Arguments) (session : Session) (outcome : RunOutcome) : Prop where
  | early (follows : Follows (fun _ => False) session outcome.session)
  | writing (before : Session) (output : String) (emitter : Emitter) (enums : EnumCatalog)
      (follows : Follows (fun _ => False) session before)
      (dryRun : emitter.dryRun = arguments.dryRun)
      (stage : outcome = writeStage arguments before output emitter enums)

theorem Ends.after {first second : Session}
    (hends : Ends arguments second outcome) (hfirst : Follows (fun _ => False) first second) :
    Ends arguments first outcome := by
  cases hends with
  | early hfollows => exact .early (hfirst.trans hfollows)
  | writing before output emitter enums hfollows hdry hstage =>
    exact .writing before output emitter enums (hfirst.trans hfollows) hdry hstage

theorem ends_same (arguments : Arguments) (session : Session) (output : String)
    (exit : Except Failure Nat) : Ends arguments session ⟨session, output, exit⟩ :=
  .early (Follows.refl session)

theorem ends_giveUp (arguments : Arguments) (session : Session) (output message : String)
    (failure : Failure) (code : Nat) :
    Ends arguments session (giveUp session output message failure code) :=
  .early (Session.follows_tell session _)

/-! ### Stages -/

theorem ends_collectStage (arguments : Arguments) (session : Session) (outputDir : Path)
    (templates : Template.Library) (file : String) (api : Api) :
    Ends arguments session (collectStage arguments session outputDir templates file api) := by
  -- a malformed API ends the run with a word on it, or as the failure that it is
  have hmalformed : ∀ (session : Session) (e : Api.Error), Ends arguments session
      (if e.isReported then
        giveUp session "" ("Malformed content in API dump " ++ file) (.api e) malformedExit
      else ⟨session, "", .error (.api e)⟩) := by
    intro session e
    split
    · exact ends_giveUp ..
    · exact ends_same ..
  have htold := Session.follows_tell session api.catalog.1
  unfold collectStage
  dsimp only
  cases ClassSet.ofApi api with
  | error e => exact hmalformed session e
  | ok classes =>
    dsimp only
    cases api.catalog.2 with
    | error e => exact (hmalformed _ e).after htold
    | ok enums =>
      have hsummary := htold.trans
        (Session.follows_tell (session.tell api.catalog.1) (summary classes enums))
      dsimp only
      split
      · exact (ends_same ..).after hsummary
      · exact .writing _ _ _ _ hsummary rfl rfl

theorem ends_loadStage (arguments : Arguments) (session : Session) (outputDir : Path)
    (templates : Template.Library) (file : String) :
    Ends arguments session (loadStage arguments session outputDir templates file) := by
  unfold loadStage
  split
  · split
    · exact ends_giveUp ..
    · split
      · exact ends_same ..
      · exact ends_giveUp ..
  · exact ends_collectStage ..

theorem ends_templateStage (arguments : Arguments) (session : Session) (outputDir : Path) :
    Ends arguments session (templateStage arguments session outputDir) := by
  have htold := Session.follows_tell session (openTemplates session arguments).1
  unfold templateStage
  dsimp only
  split
  · exact (ends_giveUp ..).after htold
  · split
    · exact (ends_loadStage ..).after htold
    · exact (ends_same ..).after htold

/-! ### The last stage -/

theorem exit_writeStage (arguments : Arguments) (session : Session) (output : String)
    (emitter : Emitter) (enums : EnumCatalog) :
    (writeStage arguments session output emitter enums).exit = .ok 0 ∨
      (writeStage arguments session output emitter enums).exit = .ok emissionExit := by
  unfold writeStage
  dsimp only
  split
  · exact Or.inr rfl
  · split
    · exact Or.inl rfl
    · exact Or.inl rfl

theorem follows_writeStage_of_dryRun {emitter : Emitter} (hdry : emitter.dryRun = true)
    (arguments : Arguments) (session : Session) (output : String) (enums : EnumCatalog) :
    Follows (fun _ => False) session
      (writeStage arguments session output emitter enums).session := by
  have hwritten :=
    Emitter.follows_writeModules_of_dryRun hdry session enums.globals enums.classes
  unfold writeStage
  dsimp only
  split
  · exact hwritten.trans (Session.follows_tell _ _)
  · split
    · exact hwritten.trans (Session.follows_tell _ _)
    · exact hwritten

/-! ### Runs that write nothing -/

/-- The run ends before its last stage, or is a dry one: it gives up the templates or the API, a
    failure comes out of it, or nothing is to be written. -/
inductive WritesNothing (arguments : Arguments) (exit : Except Failure Nat) : Prop where
  | gaveUp {code : Nat} (known : code ∈ [templatesExit, unreadableExit, malformedExit])
      (exits : exit = .ok code)
  | failed {failure : Failure} (exits : exit = .error failure)
  | dry (asked : arguments.dryRun = true)

theorem Ends.follows (hends : Ends arguments session outcome)
    (hnothing : WritesNothing arguments outcome.exit) :
    Follows (fun _ => False) session outcome.session := by
  cases hends with
  | early hfollows => exact hfollows
  | writing before output emitter enums hfollows hdry hstage =>
    have hexit := exit_writeStage arguments before output emitter enums
    rw [← hstage] at hexit
    cases hnothing with
    | gaveUp hknown hcode =>
      -- the codes of the last stage are none of those of the stages before it
      exfalso
      rw [hcode] at hexit
      rcases hexit with hzero | hemission
      · cases hzero
        revert hknown
        decide
      · cases hemission
        revert hknown
        decide
    | failed hfailure =>
      rw [hfailure] at hexit
      rcases hexit with hzero | hemission
      · cases hzero
      · cases hemission
    | dry hasked =>
      rw [hstage]
      exact hfollows.trans
        (follows_writeStage_of_dryRun (hdry.trans hasked) arguments before output enums)

/-! ### The log of a run -/

def Arguments.logSetup (arguments : Arguments) : Log.Setup :=
  { level := arguments.level
    format := arguments.logFormat.text?.getD ""
    file := (arguments.logFile.bind Value.text?).getD "" }

/-- The place of the log file that the arguments name, seen from where a run starts. -/
def Arguments.LogsAt (arguments : Arguments) (session : Session) (location : Location) : Prop :=
  ∃ text, arguments.logFile.bind Value.text? = some text ∧
    session.tree.locate (session.directory.resolve (.ofText text)) = .ok location

theorem logsAt_of_fileAt {location : Location}
    (hat : arguments.logSetup.FileAt session.tree session.directory location) :
    arguments.LogsAt session location := by
  obtain ⟨hsome, hlocate⟩ := hat
  unfold Arguments.logSetup at hsome hlocate
  unfold Arguments.LogsAt
  cases htext : arguments.logFile.bind Value.text? with
  | none =>
    rw [htext] at hsome
    exact absurd rfl hsome
  | some text =>
    rw [htext] at hlocate
    exact ⟨text, rfl, hlocate⟩

/-- A run sets up its log and goes through its stages from there. -/
theorem ends_run (arguments : Arguments) (session : Session) :
    Ends arguments (session.configure arguments.logSetup).1 (run arguments session) := by
  unfold run
  dsimp only
  split
  · rename_i hconfigure
    change session.configure arguments.logSetup = _ at hconfigure
    rw [hconfigure]
    exact ends_same ..
  · rename_i hconfigure
    change session.configure arguments.logSetup = _ at hconfigure
    rw [hconfigure]
    dsimp only
    split
    · exact ends_same ..
    · exact ends_templateStage ..

/-- A run that gives up before its last stage, and a dry run however it ends, leave every file
    and directory as they were, whether there or missing, except for the log file. -/
theorem run_keeps_files (arguments : Arguments) (session : Session)
    (hnothing : WritesNothing arguments (run arguments session).exit) :
    ∀ location, ¬ arguments.LogsAt session location →
      (run arguments session).session.tree.node? location = session.tree.node? location := by
  intro location hapart
  have hplace : ¬ arguments.logSetup.FileAt session.tree session.directory location :=
    fun hat => hapart (logsAt_of_fileAt hat)
  have hlogs : ¬ (session.configure arguments.logSetup).1.LogsTo location := by
    intro hlogs
    rcases Session.logsTo_configure hlogs with hfile | hstream
    · exact hplace hfile
    · cases hstream
  have hfollows := (ends_run arguments session).follows hnothing
  rw [hfollows.node location id hlogs, Session.node?_configure session _ hplace]

/-- A dry run on a small tree with templates of the user: an API of one enum, and a log file. -/
def smallArguments : Arguments :=
  { api := .text "api.json", outputDir := .text "gen", templatesDir := some (.text "t")
    dryRun := true, logFile := some (.text "run.log") }

def smallStart : Session :=
  { tree := ⟨[(["t"], .directory),
      (["t", "enum.rs.j2"], .file "enum".toUTF8 FileTree.defaultMode),
      (["t", "enums_module.rs.j2"], .file "\x7b\x7b owner \x7d\x7d".toUTF8 FileTree.defaultMode),
      (["api.json"], .file "\x7b\"global_enums\":[\x7b\"name\":\"E\"\x7d]\x7d".toUTF8
        FileTree.defaultMode)]⟩
    directory := .root
    describe := fun _ => "" }

/-- The small dry run succeeds, and makes no directory for the modules. -/
theorem small_run_keeps_files :
    (run smallArguments smallStart).exit.toOption = some 0 ∧
      (run smallArguments smallStart).session.tree.node? ["gen"] = none := by
  refine ⟨by decide +kernel, ?_⟩
  have hapart : ¬ smallArguments.LogsAt smallStart ["gen"] := by
    rintro ⟨text, htext, hlocate⟩
    cases htext
    revert hlocate
    decide
  rw [run_keeps_files smallArguments smallStart (.dry rfl) ["gen"] hapart]
  rfl

end EngineBindings.CommandLine
