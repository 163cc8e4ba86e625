/-
  EngineBindings/Proofs/Log/Delivery.lean
  =======================================
  **Records after a setup.**

  A setup that succeeds leaves nothing of the ones before it, whether they have succeeded or
  failed: the handlers, the levels and the propagation are read off its own arguments
  (`configure_eq_ok`).  From then on a record of its level is shown once on its stream and once
  in its file (`deliver_routing`), and the file holds these lines and nothing else
  (`node?_appendLines_file`).

  The records of the package may be kept from the handlers.  They are not lost for that if they
  tell of something that may be wrong: a record that meets no handler is shown on the standard
  error, its message alone.  Main statement: `records_reach_last_setup`.
-/
import EngineBindings.Proofs.FileTree.Straight
import EngineBindings.Proofs.Log.Pattern
import EngineBindings.Proofs.Log.Routing

namespace EngineBindings

/-! ### Loggers of the package -/

namespace Log

def IsOfPackage (logger : String) : Prop :=
  logger = packageLogger ∨ ∃ rest, logger = packageLogger ++ "." ++ rest

theorem ofPackage_iff (logger : String) : ofPackage logger = true ↔ IsOfPackage logger := by
  unfold ofPackage IsOfPackage
  rw [Bool.or_eq_true, beq_iff_eq, Option.isSome_iff_exists]
  simp only [Text.after?_eq_some_iff]

instance (logger : String) : Decidable (IsOfPackage logger) :=
  decidable_of_iff _ (ofPackage_iff logger)

/-! ### What a setup asks for -/

def Setup.filePlace (setup : Setup) (directory : Path) : Location :=
  (directory.resolve (.ofText setup.file)).parts

/-- Where a setup shows records: on its stream, and in its file if it names one. -/
def Setup.targets (setup : Setup) (directory : Path) : List Target :=
  setup.stream :: if setup.file = "" then [] else [.file (setup.filePlace directory)]

def Setup.routing (setup : Setup) (directory : Path) (level : Int) (format : Format) : Routing where
  handlers := (setup.targets directory).map fun target => ⟨target, level, format⟩
  rootLevel := level
  packageLevel := level
  propagates := setup.propagates

variable {setup : Setup} {tree opened : FileTree} {directory : Path} {files : List Target}

/-- The path of a log file leads to the place that its text tells. -/
theorem Setup.FileAt.place_eq {location : Location} (hat : setup.FileAt tree directory location) :
    location = setup.filePlace directory := by
  have hwalk := FileTree.walk_of_locate hat.2
  exact FileTree.walk_straight (Path.up_not_mem_cancelParents _) hwalk

theorem Setup.FileAt.mem_targets {location : Location}
    (hat : setup.FileAt tree directory location) : .file location ∈ setup.targets directory := by
  rw [Setup.targets, if_neg hat.1, ← hat.place_eq]
  exact List.mem_cons_of_mem _ List.mem_cons_self

theorem openFile_of_named (hnamed : setup.file ≠ "")
    (hopen : setup.openFile tree directory = .ok (opened, files)) :
    files = [.file (setup.filePlace directory)] ∧
      ∃ mode, opened.node? (setup.filePlace directory) = some (.file .empty mode) := by
  unfold Setup.openFile at hopen
  rw [if_neg hnamed] at hopen
  cases htruncate : tree.truncateFile (directory.resolve (.ofText setup.file)) with
  | error e =>
    rw [htruncate] at hopen
    cases hopen
  | ok emptied =>
    obtain ⟨emptied, location⟩ := emptied
    rw [htruncate] at hopen
    cases hopen
    have hat : setup.FileAt tree directory location :=
      ⟨hnamed, (FileTree.truncateFile_eq_ok htruncate).1⟩
    rw [← hat.place_eq]
    exact ⟨rfl, FileTree.node?_of_truncateFile htruncate⟩

theorem openFile_targets (hopen : setup.openFile tree directory = .ok (opened, files)) :
    setup.stream :: files = setup.targets directory := by
  unfold Setup.targets
  by_cases hnone : setup.file = ""
  · unfold Setup.openFile at hopen
    rw [if_pos hnone] at hopen
    cases hopen
    rw [if_pos hnone]
  · rw [if_neg hnone, (openFile_of_named hnone hopen).1]

/-- What a setup that succeeds puts in force. -/
theorem configure_eq_ok {routing : Routing}
    (hok : (routing.configure tree directory setup).2.2 = .ok ()) :
    ∃ level format files, setup.level.resolve = .ok level ∧
      Format.ofText setup.formatText = .ok format ∧
      setup.openFile tree directory = .ok ((routing.configure tree directory setup).2.1, files) ∧
      (routing.configure tree directory setup).1 = setup.routing directory level format := by
  unfold Routing.configure at hok ⊢
  dsimp only at hok ⊢
  split at hok
  · cases hok
  · rename_i level hlevel
    split at hok
    · cases hok
    · rename_i format hformat
      split at hok
      · cases hok
      · rename_i opened files hopen
        refine ⟨level, format, files, hlevel, hformat, hopen, ?_⟩
        rw [Setup.routing, ← openFile_targets hopen]

/-! ### The lines of a record -/

/-- The lines of a record after a setup.  What is kept from the handlers goes to the handler that
    is there when there is no other. -/
def Setup.linesOf (setup : Setup) (directory : Path) (level : Int) (pattern : Pattern)
    (describe : Failure → String) (record : Record) : List (Target × String) :=
  if record.level < level then []
  else if setup.propagates ∨ ¬ IsOfPackage record.logger then
    (setup.targets directory).map (·, pattern.line describe record)
  else if record.level < warningLevel then []
  else [(standardError, messagePattern.line describe record)]

variable {level : Int} {format : Format} {describe : Failure → String} {record : Record}

theorem levelOf_routing (setup : Setup) (directory : Path) (level : Int) (format : Format)
    (logger : String) : (setup.routing directory level format).levelOf logger = level :=
  ite_self level

theorem admits_routing (hpositive : 0 < record.level) :
    (setup.routing directory level format).admits record = true ↔ level ≤ record.level := by
  unfold Routing.admits
  rw [levelOf_routing, decide_eq_true hpositive, Bool.true_and, decide_eq_true_iff]

/-- What the package is kept from is the handlers, not every handler. -/
theorem handlersOf_routing (setup : Setup) (directory : Path) (level : Int) (format : Format)
    (record : Record) :
    (setup.routing directory level format).handlersOf record =
      if setup.propagates ∨ ¬ IsOfPackage record.logger then
        (setup.targets directory).map fun target => ⟨target, level, format⟩
      else [lastResort] := by
  have hkept : ((setup.routing directory level format).handlers.isEmpty ||
      (ofPackage record.logger && !(setup.routing directory level format).propagates)) = true ↔
        ¬ (setup.propagates ∨ ¬ IsOfPackage record.logger) := by
    rw [← ofPackage_iff]
    simp [Setup.routing, Setup.targets, and_comm]
  unfold Routing.handlersOf
  rw [ite_cond_congr (propext hkept), ite_not]
  rfl

/-- A record of the level of a setup is shown by each handler once; if it is kept from them, it is
    shown when it tells of something that may be wrong. -/
theorem deliver_routing {pattern : Pattern} (hformat : Format.ofText pattern.format = .ok format)
    (hpositive : 0 < record.level) :
    (setup.routing directory level format).deliver describe record =
      setup.linesOf directory level pattern describe record := by
  unfold Routing.deliver Setup.linesOf
  by_cases hlower : record.level < level
  · rw [if_pos hlower, if_neg]
    rw [admits_routing hpositive]
    exact Int.not_le.mpr hlower
  rw [if_neg hlower, if_pos ((admits_routing hpositive).mpr (Int.not_lt.mp hlower)),
    handlersOf_routing]
  by_cases hpasses : setup.propagates ∨ ¬ IsOfPackage record.logger
  · rw [if_pos hpasses, if_pos hpasses, List.filterMap_map, ← List.filterMap_eq_map]
    congr 1
    funext target
    rw [Function.comp_apply, if_pos (Int.not_lt.mp hlower), line?_of_pattern hformat]
    rfl
  · rw [if_neg hpasses, if_neg hpasses]
    by_cases hlow : record.level < warningLevel
    · rw [if_pos hlow, List.filterMap_cons_none, List.filterMap_nil]
      exact if_neg (Int.not_le.mpr hlow)
    · rw [if_neg hlow, List.filterMap_cons_some, List.filterMap_nil]
      have hline := line?_messageFormat describe record
      rw [lastResort, if_pos (Int.not_lt.mp hlow), hline]
      rfl

/-! ### The bytes of a log file -/

theorem textOn_cons (target place : Target) (line : String) (lines : List (Target × String)) :
    textOn target ((place, line) :: lines) =
      (if place = target then line else "") ++ textOn target lines := by
  by_cases hsame : place = target
  · simp [textOn, hsame]
  · simp [textOn, hsame]

/-- A log file takes the lines that are meant for it, in order. -/
theorem node?_appendLines_file {location : Location} {bytes : ByteArray} {mode : Nat}
    (hfile : tree.node? location = some (.file bytes mode)) (lines : List (Target × String)) :
    (appendLines tree lines).node? location =
      some (.file (bytes ++ (textOn (.file location) lines).toUTF8) mode) := by
  have hbelow : location ≠ [] := by
    rintro rfl
    cases hfile
  unfold appendLines
  induction lines generalizing tree bytes with
  | nil => simpa [textOn] using hfile
  | cons line rest ih =>
    obtain ⟨target, line⟩ := line
    rw [List.foldl_cons, textOn_cons]
    cases target with
    | stream number =>
      rw [if_neg nofun, String.empty_append]
      exact ih hfile
    | file place =>
      by_cases hsame : place = location
      · subst hsame
        have hmore : (tree.appendBytes place line.toUTF8).node? place =
            some (.file (bytes ++ line.toUTF8) mode) := by
          unfold FileTree.appendBytes
          rw [hfile]
          exact FileTree.node?_insert_self tree _ hbelow
        rw [ih hmore, if_pos rfl, ByteArray.append_assoc]
        simp
      · rw [if_neg (by simpa using hsame), String.empty_append]
        exact ih ((FileTree.node?_appendBytes_of_ne tree _ hsame).trans hfile)

end Log

namespace Session

/-! ### Setups and records in a row -/

inductive LogStep where
  | setUp (setup : Log.Setup)
  | tell (record : Log.Record)

/-- The session after a step; a setup that fails is a step as well. -/
def afterStep (session : Session) : LogStep → Session
  | .setUp setup => (session.configure setup).1
  | .tell record => session.tell [record]

def afterSteps (session : Session) (steps : List LogStep) : Session :=
  steps.foldl afterStep session

variable {session : Session} {setup : Log.Setup} {pattern : Log.Pattern}

theorem afterSteps_append (session : Session) (first second : List LogStep) :
    session.afterSteps (first ++ second) = (session.afterSteps first).afterSteps second :=
  List.foldl_append

theorem afterSteps_tell (session : Session) (records : List Log.Record) :
    session.afterSteps (records.map .tell) = session.tell records := by
  induction records generalizing session with
  | nil => exact (tell_nil session).symm
  | cons record rest ih =>
    have hrest : (session.tell [record]).afterSteps (rest.map .tell) =
        (session.tell [record]).tell rest := ih _
    rw [tell_tell] at hrest
    exact hrest

/-- No step moves the working directory or changes how failures are described. -/
theorem afterSteps_environment (session : Session) (steps : List LogStep) :
    (session.afterSteps steps).directory = session.directory ∧
      (session.afterSteps steps).describe = session.describe := by
  induction steps generalizing session with
  | nil => exact ⟨rfl, rfl⟩
  | cons step rest ih =>
    have hstep : (session.afterStep step).directory = session.directory ∧
        (session.afterStep step).describe = session.describe := by
      cases step with
      | setUp setup => exact ⟨rfl, rfl⟩
      | tell record => exact ⟨rfl, rfl⟩
    obtain ⟨hdirectory, hdescribe⟩ := ih (session.afterStep step)
    exact ⟨hdirectory.trans hstep.1, hdescribe.trans hstep.2⟩

/-- What a setup that succeeds leaves in a session. -/
theorem configure_eq_ok (hok : (session.configure setup).2 = .ok ()) :
    ∃ level format files, setup.level.resolve = .ok level ∧
      Log.Format.ofText setup.formatText = .ok format ∧
      setup.openFile session.tree session.directory =
        .ok ((session.configure setup).1.tree, files) ∧
      (session.configure setup).1.routing = setup.routing session.directory level format :=
  Log.configure_eq_ok hok

theorem logsTo_iff_of_routing {level : Int} {format : Log.Format} {directory : Path}
    {location : Location} (hrouting : session.routing = setup.routing directory level format) :
    session.LogsTo location ↔ .file location ∈ setup.targets directory := by
  unfold LogsTo
  rw [hrouting]
  simp [Log.Setup.routing]

/-- Records that follow a setup are shown as the setup asks, each on its own. -/
theorem shown_tell_of_routing {level : Int} {format : Log.Format} {directory : Path}
    {records : List Log.Record} (hrouting : session.routing = setup.routing directory level format)
    (hformat : Log.Format.ofText pattern.format = .ok format)
    (hpositive : ∀ record ∈ records, 0 < record.level) :
    (session.tell records).shown =
      session.shown ++ records.flatMap
        (setup.linesOf directory level pattern session.describe) := by
  have hdeliver : session.routing.deliverAll session.describe records =
      records.flatMap (setup.linesOf directory level pattern session.describe) := by
    rw [hrouting]
    exact List.flatMap_congr fun record hrecord =>
      Log.deliver_routing hformat (hpositive record hrecord)
  rw [← hdeliver]
  rfl

/-- Whatever was set up and told before, a setup that succeeds decides alone about the records
    after it. -/
theorem records_reach_last_setup (session : Session) (earlier : List LogStep)
    (setup : Log.Setup) (records : List Log.Record) (pattern : Log.Pattern)
    (hpattern : setup.formatText = pattern.format)
    (hok : ((session.afterSteps earlier).configure setup).2 = .ok ())
    (hpositive : ∀ record ∈ records, 0 < record.level) :
    let before := session.afterSteps earlier
    let after := session.afterSteps (earlier ++ .setUp setup :: records.map .tell)
    ∃ level, setup.level.resolve = .ok level ∧
      after.routing =
        setup.routing session.directory level ⟨Log.pieces? pattern.format.toList⟩ ∧
      after.shown = records.flatMap
        (setup.linesOf session.directory level pattern session.describe) ∧
      (∀ place, .file place ∉ setup.targets session.directory →
        after.tree.node? place = before.tree.node? place) ∧
      (setup.file ≠ "" → ∃ mode, after.tree.node? (setup.filePlace session.directory) =
        some (.file (Log.textOn (.file (setup.filePlace session.directory)) after.shown).toUTF8
          mode)) := by
  intro before after
  obtain ⟨hdirectory, hdescribe⟩ := session.afterSteps_environment earlier
  obtain ⟨level, format, files, hlevel, hformat, hopen, hrouting⟩ := configure_eq_ok hok
  rw [hdirectory] at hopen hrouting
  rw [hpattern] at hformat
  have hafter : after = (before.configure setup).1.tell records := by
    rw [← afterSteps_tell]
    exact afterSteps_append session earlier _
  have hshown : after.shown = records.flatMap
      (setup.linesOf session.directory level pattern session.describe) := by
    rw [hafter, shown_tell_of_routing hrouting hformat hpositive, ← hdescribe]
    exact List.nil_append _
  refine ⟨level, hlevel, ?_, hshown, ?_, ?_⟩
  · rw [hafter, ← Log.ofText_eq_ok hformat]
    exact hrouting
  · intro place hplace
    have hapart : ¬ (before.configure setup).1.LogsTo place := by
      rwa [logsTo_iff_of_routing hrouting]
    rw [hafter, node?_tell records hapart]
    refine node?_configure before setup fun hat => hplace ?_
    rw [hdirectory] at hat
    exact hat.mem_targets
  · intro hnamed
    obtain ⟨mode, hempty⟩ := (Log.openFile_of_named hnamed hopen).2
    have hfile := Log.node?_appendLines_file hempty after.shown
    rw [ByteArray.empty_append] at hfile
    refine ⟨mode, ?_⟩
    rw [← hfile, hafter]
    rfl

def unset : Session :=
  { tree := .empty, directory := .root, describe := fun _ => "" }

/-- A setup after one that has failed. -/
theorem records_after_failed_setup :
    let earlier : List LogStep :=
      [.setUp { format := "x" }, .tell (Log.info Log.packageLogger "lost")]
    let setup : Log.Setup := { file := "a", propagates := false }
    let records := [Log.warning "other" "w", Log.warning Log.packageLogger "w"]
    let before := unset.afterSteps earlier
    let after := unset.afterSteps (earlier ++ .setUp setup :: records.map .tell)
    setup.formatText = Log.standardPattern.format ∧ (before.configure setup).2 = .ok () ∧
      (∀ record ∈ records, 0 < record.level) ∧
    ∃ level, setup.level.resolve = .ok level ∧
      after.routing =
        setup.routing .root level ⟨Log.pieces? Log.standardPattern.format.toList⟩ ∧
      after.shown = records.flatMap
        (setup.linesOf .root level Log.standardPattern fun _ => "") ∧
      (∀ place, .file place ∉ setup.targets .root →
        after.tree.node? place = before.tree.node? place) ∧
      (setup.file ≠ "" → ∃ mode, after.tree.node? (setup.filePlace .root) =
        some (.file (Log.textOn (.file (setup.filePlace .root)) after.shown).toUTF8 mode)) := by
  have hpattern : Log.standardFormat = Log.standardPattern.format :=
    Log.format_standardPattern.symm
  have hok : ((unset.afterSteps [.setUp { format := "x" },
      .tell (Log.info Log.packageLogger "lost")]).configure
        { file := "a", propagates := false }).2 = .ok () := rfl
  have hpositive : ∀ record ∈ [Log.warning "other" "w", Log.warning Log.packageLogger "w"],
      0 < record.level := by decide
  exact ⟨hpattern, hok, hpositive,
    records_reach_last_setup unset _ _ _ Log.standardPattern hpattern hok hpositive⟩

/-- A warning of the package is shown though the package is cut off from the handlers. -/
theorem warning_shown_in_spite_of_propagation :
    let setup : Log.Setup := { propagates := false }
    let record := Log.warning Log.packageLogger "w"
    (unset.configure setup).2 = .ok () ∧ setup.formatText = Log.standardPattern.format ∧
      setup.level.resolve = .ok 20 ∧ 20 ≤ record.level ∧
      ¬ (setup.propagates ∨ ¬ Log.IsOfPackage record.logger) ∧
      ((unset.configure setup).1.tell [record]).shown = [(setup.stream, "w\n")] := by
  have hok : (unset.configure { propagates := false }).2 = .ok () := rfl
  refine ⟨hok, Log.format_standardPattern.symm, rfl, by decide, by decide, ?_⟩
  have hformat : Log.Format.ofText Log.standardPattern.format =
      .ok ⟨Log.pieces? Log.standardPattern.format.toList⟩ := if_pos (by decide)
  have hrouting : (unset.configure { propagates := false }).1.routing =
      Log.Setup.routing { propagates := false } .root 20
        ⟨Log.pieces? Log.standardPattern.format.toList⟩ := by
    rw [Log.format_standardPattern]
    rfl
  have hshown : ((unset.configure { propagates := false }).1.tell
      [Log.warning Log.packageLogger "w"]).shown =
        Log.Setup.linesOf { propagates := false } .root 20 Log.standardPattern unset.describe
          (Log.warning Log.packageLogger "w") := by
    rw [← Log.deliver_routing hformat (by decide), ← hrouting]
    exact List.append_nil _
  exact hshown.trans (by decide)

end Session

end EngineBindings
