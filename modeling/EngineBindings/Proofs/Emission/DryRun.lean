/-
  EngineBindings/Proofs/Emission/DryRun.lean
  ==========================================
  **What a dry run tells about the real one.**

  A dry run goes through the same steps and writes nothing: it leaves every node as it is but
  for the log files (`follows_writeModules_of_dryRun`).  Whether a step can be carried out at
  all is decided by its name and by the templates (`refusal?`), so the two runs agree on it as
  long as the templates read the same in both; a real step may fail in one more way, when its
  file is written.

  So the first step that a dry run gives up is one that the real run gives up as well, unless
  it has failed before (`rehearsal_foretells`).  Templates stay one set when there is no
  directory of the user (`oneTemplateSet_of_package`), and when that directory stands apart
  from all that the emission may write (`oneTemplateSet_of_apart`).
-/
import EngineBindings.Proofs.Emission.EndState

namespace EngineBindings.Emitter

open Emission

variable {emitter : Emitter} {session : Session} {paths : List Path} {origin : FileTree}

/-! ### A run that writes nothing -/

def rehearsal (emitter : Emitter) : Emitter :=
  { emitter with dryRun := true }

theorem dryRun_rehearsal (emitter : Emitter) : emitter.rehearsal.dryRun = true := rfl

theorem write_of_dryRun (tree : FileTree) (path : Path) (text : String) {options : WriteOptions}
    (hdry : options.dryRun = true) :
    tree.write path text options = ⟨tree, FileTree.writeLog options
      (Log.info Log.filesLogger ("[dry-run] write " ++ path.text)), .ok false⟩ := by
  rw [FileTree.write, if_pos hdry]

/-- A module that can be rendered is always returned by a dry run. -/
theorem writeModule_of_dryRun {module owner text : String} {definitions : List Enum.Definition}
    (hdry : emitter.dryRun = true)
    (htext : emitter.moduleText session.tree owner definitions = .ok text) :
    (emitter.writeModule session module owner definitions).result =
      .ok [emitter.modulePath module] := by
  unfold writeModule
  rw [htext]
  dsimp only
  rw [write_of_dryRun _ _ _ hdry]

theorem follows_carryOut_of_dryRun (hdry : emitter.dryRun = true) (session : Session)
    (step : Step) :
    Session.Follows (fun _ => False) session (emitter.carryOut session step).session := by
  cases step with
  | write module owner definitions =>
    change Session.Follows _ session
      (emitter.writeModule session module owner definitions).session
    rcases emitter.writeModule_session_cases session module owner definitions with
      hsame | ⟨text, records, hwritten⟩
    · rw [hsame]
      exact Session.Follows.refl session
    · have htree : (emitter.writeText session.tree module text).tree = session.tree := by
        rw [writeText, write_of_dryRun _ _ _ hdry]
      rw [hwritten, afterWrite, htree, Session.withTree_self]
      exact (Session.follows_tell session _).trans (Session.follows_tell _ records)
  | passOver holder className module => exact Session.follows_tell session _
  | refuse name => exact Session.Follows.refl session

theorem follows_carryOutAll_of_dryRun (hdry : emitter.dryRun = true) (session : Session)
    (steps : List Step) :
    Session.Follows (fun _ => False) session (emitter.carryOutAll session steps).session := by
  induction steps generalizing session with
  | nil => exact Session.Follows.refl session
  | cons step rest ih =>
    have hstep := follows_carryOut_of_dryRun hdry session step
    rw [carryOutAll]
    dsimp only
    split
    · exact hstep
    · exact hstep.trans (ih _)

theorem prepare_of_dryRun (hdry : emitter.dryRun = true) (tree : FileTree) :
    emitter.prepare tree = (tree, .ok ()) := by
  rw [prepare, if_pos hdry]

theorem prepared_of_dryRun (hdry : emitter.dryRun = true) (session : Session) :
    emitter.prepared session = session := by
  rw [prepared, prepare_of_dryRun hdry, Session.withTree_self]

/-- A dry run leaves every node as it is, but for the log files. -/
theorem follows_writeModules_of_dryRun (hdry : emitter.dryRun = true) (session : Session)
    (globals : List Enum.Definition) (classes : Dictionary Json (List Enum.Definition)) :
    Session.Follows (fun _ => False) session
      (emitter.writeModules session globals classes).session := by
  have hrun := follows_carryOutAll_of_dryRun hdry session
    (plan emitter.settings.globalModule globals classes)
  unfold writeModules
  rw [prepare_of_dryRun hdry]
  dsimp only
  rw [Session.withTree_self]
  split
  · exact hrun
  · exact hrun.trans (Session.follows_tell _ _)

/-! ### Steps that cannot be carried out -/

/-- Why a step cannot be carried out, whatever becomes of its file: its module cannot be
    rendered, or there is none. -/
def refusal? (emitter : Emitter) (tree : FileTree) : Step → Option Failure
  | .write _ owner definitions =>
    match emitter.moduleText tree owner definitions with
    | .error e => some (.template e)
    | .ok _ => none
  | .passOver _ _ _ => none
  | .refuse name => some (.classNameNotText name)

theorem refusal?_of_carryOut_ok {step : Step}
    (hok : (emitter.carryOut session step).result = .ok paths) :
    emitter.refusal? session.tree step = none := by
  cases step with
  | write module owner definitions =>
    obtain ⟨text, _, htext, _, _, _⟩ := writeModule_eq_ok hok
    simp only [refusal?, htext]
  | passOver holder className module => rfl
  | refuse name => cases hok

/-- A step fails because it cannot be carried out, or because its file cannot be written. -/
theorem carryOut_error_cases {step : Step} {failure : Failure}
    (hfails : (emitter.carryOut session step).result = .error failure) :
    emitter.refusal? session.tree step = some failure ∨
      (emitter.dryRun = false ∧ emitter.refusal? session.tree step = none ∧
        ∃ module owner definitions e,
          step = .write module owner definitions ∧ failure = .file e) := by
  cases step with
  | write module owner definitions =>
    change (emitter.writeModule session module owner definitions).result = .error failure at hfails
    unfold writeModule at hfails
    cases htext : emitter.moduleText session.tree owner definitions with
    | error e =>
      rw [htext] at hfails
      cases hfails
      left
      simp only [refusal?, htext]
    | ok text =>
      rw [htext] at hfails
      dsimp only at hfails
      right
      have hreal : emitter.dryRun = false := by
        by_contra hdry
        have hdry : emitter.dryRun = true := by simpa using hdry
        rw [write_of_dryRun _ _ _ hdry] at hfails
        cases hfails
      refine ⟨hreal, by simp only [refusal?, htext], module, owner, definitions, ?_⟩
      -- what is left is the outcome of the write
      split at hfails
      · rename_i e _
        cases hfails
        exact ⟨e, rfl, rfl⟩
      · cases hfails
  | passOver holder className module => cases hfails
  | refuse name =>
    cases hfails
    exact Or.inl rfl

/-! ### Where a row of steps fails -/

structure FailsAt (emitter : Emitter) (session : Session) (steps front : List Step) (step : Step)
    (failure : Failure) : Prop where
  place : front ++ [step] <+: steps
  before : ∃ paths, (emitter.carryOutAll session front).result = .ok paths
  fails : (emitter.carryOut (emitter.carryOutAll session front).session step).result =
    .error failure

theorem failsAt_of_carryOutAll {steps : List Step} {failure : Failure}
    (hfails : (emitter.carryOutAll session steps).result = .error failure) :
    ∃ front step, emitter.FailsAt session steps front step failure := by
  induction steps generalizing session with
  | nil => cases hfails
  | cons step rest ih =>
    cases hstep : (emitter.carryOut session step).result with
    | error e =>
      simp only [carryOutAll, hstep] at hfails
      cases hfails
      exact ⟨[], step, by simp, ⟨[], rfl⟩, hstep⟩
    | ok first =>
      simp only [carryOutAll, hstep] at hfails
      -- this step is carried out, so the failure is one of the rest
      have hrest : (emitter.carryOutAll (emitter.carryOut session step).session rest).result =
          .error failure := by
        cases hothers : (emitter.carryOutAll (emitter.carryOut session step).session rest).result
          with
        | error e =>
          rw [hothers] at hfails
          cases hfails
          rfl
        | ok others =>
          rw [hothers] at hfails
          cases hfails
      obtain ⟨front, last, hlast⟩ := ih hrest
      obtain ⟨found, hfound⟩ := hlast.before
      have hfront : emitter.carryOutAll session (step :: front) =
          ⟨(emitter.carryOutAll (emitter.carryOut session step).session front).session,
            .ok (first ++ found)⟩ := by
        simp only [carryOutAll, hstep, hfound]
        rfl
      refine ⟨step :: front, last, ?_, ⟨first ++ found, by rw [hfront]⟩, ?_⟩
      · simpa using hlast.place
      · rw [hfront]
        exact hlast.fails

/-! ### Templates that stay the same -/

/-- While a row of steps is carried out, the two templates read as they do in a tree. -/
def ReadsAlike (emitter : Emitter) (origin : FileTree) (session : Session) (steps : List Step) :
    Prop :=
  ∀ front, front <+: steps →
    ∀ name ∈ [emitter.settings.enumTemplate, emitter.settings.moduleTemplate],
      emitter.templates.source (emitter.carryOutAll session front).session.tree name =
        emitter.templates.source origin name

theorem ReadsAlike.refusal?_eq {steps front : List Step}
    (halike : emitter.ReadsAlike origin session steps) (hfront : front <+: steps) (step : Step) :
    emitter.refusal? (emitter.carryOutAll session front).session.tree step =
      emitter.refusal? origin step := by
  cases step with
  | write module owner definitions =>
    have htext := moduleText_congr (halike front hfront) owner definitions
    simp only [refusal?, htext]
  | passOver holder className module => rfl
  | refuse name => rfl

/-- Every step of a row that succeeds could be carried out from the start. -/
theorem ReadsAlike.accepted {steps : List Step}
    (halike : emitter.ReadsAlike origin session steps)
    (hok : (emitter.carryOutAll session steps).result = .ok paths) :
    ∀ step ∈ steps, emitter.refusal? origin step = none := by
  intro step hstep
  obtain ⟨front, back, rfl⟩ := List.append_of_mem hstep
  obtain ⟨_, _, _, hback, _, _⟩ := carryOutAll_append_eq_ok hok
  obtain ⟨_, _, hfirst, _, _, _⟩ := carryOutAll_cons_eq_ok hback
  rw [← halike.refusal?_eq (List.prefix_append _ _) step]
  exact refusal?_of_carryOut_ok hfirst

/-- The steps before the one that fails could all be carried out, and this one could not, or its
    file could not be written. -/
theorem ReadsAlike.failsAt_cases {steps front : List Step} {step : Step} {failure : Failure}
    (halike : emitter.ReadsAlike origin session steps)
    (hfails : emitter.FailsAt session steps front step failure) :
    (∀ earlier ∈ front, emitter.refusal? origin earlier = none) ∧
      (emitter.refusal? origin step = some failure ∨
        (emitter.dryRun = false ∧ emitter.refusal? origin step = none ∧
          ∃ module owner definitions e,
            step = .write module owner definitions ∧ failure = .file e)) := by
  have hprefix : front <+: steps := (List.prefix_append _ _).trans hfails.place
  have hfront : emitter.ReadsAlike origin session front :=
    fun front' hfront' => halike front' (hfront'.trans hprefix)
  obtain ⟨found, hfound⟩ := hfails.before
  refine ⟨hfront.accepted hfound, ?_⟩
  rw [← halike.refusal?_eq hprefix step]
  exact carryOut_error_cases hfails.fails

/-! ### Warnings -/

def collisions (records : List Log.Record) : List Log.Record :=
  records.filter fun record =>
    record.level = Log.warningLevel && record.logger = Log.emissionLogger

def warningsOf (steps : List Step) : List Log.Record :=
  steps.flatMap fun
    | .passOver holder className module => [passedOver holder className module]
    | _ => []

theorem logger_of_write (tree : FileTree) (path : Path) (text : String) (options : WriteOptions) :
    ∀ record ∈ (tree.write path text options).log, record.logger = Log.filesLogger := by
  have hone : ∀ level message, ∀ record ∈ FileTree.writeLog options
      ({ level, logger := Log.filesLogger, message } : Log.Record),
        record.logger = Log.filesLogger := by
    intro level message record hrecord
    unfold FileTree.writeLog at hrecord
    split at hrecord
    · rw [List.mem_singleton.mp hrecord]
    · cases hrecord
  intro record hrecord
  cases hdry : options.dryRun with
  | true =>
    rw [write_of_dryRun _ _ _ hdry] at hrecord
    exact hone _ _ record hrecord
  | false =>
    rcases FileTree.write_cases tree path text hdry with ⟨e, hwrite⟩ | ⟨-, -, hwrite⟩ |
      ⟨-, -, _, _, _, _, _, _, _, _, hwrite⟩
    · rw [hwrite] at hrecord
      cases hrecord
    · rw [hwrite] at hrecord
      exact hone _ _ record hrecord
    · rw [hwrite] at hrecord
      exact hone _ _ record hrecord

theorem collisions_append (front back : List Log.Record) :
    collisions (front ++ back) = collisions front ++ collisions back :=
  List.filter_append _ _

theorem collisions_of_write (tree : FileTree) (path : Path) (text : String)
    (options : WriteOptions) : collisions (tree.write path text options).log = [] := by
  unfold collisions
  rw [List.filter_eq_nil_iff]
  intro record hrecord
  have hlogger := logger_of_write tree path text options record hrecord
  have hother : Log.filesLogger ≠ Log.emissionLogger := by decide
  simp [hlogger, hother]

theorem collisions_of_carryOut {step : Step}
    (hok : (emitter.carryOut session step).result = .ok paths) :
    collisions (emitter.carryOut session step).session.told =
      collisions session.told ++ warningsOf [step] := by
  cases step with
  | write module owner definitions =>
    obtain ⟨text, _, _, _, _, hsession⟩ := writeModule_eq_ok hok
    change collisions (emitter.writeModule session module owner definitions).session.told = _
    rw [hsession, afterWrite, Session.told_tell, Session.told_withTree, collisions_append,
      writeText, collisions_of_write]
    rfl
  | passOver holder className module =>
    change collisions (session.tell [passedOver holder className module]).told = _
    rw [Session.told_tell, collisions_append]
    rfl
  | refuse name => cases hok

/-- A row of steps that succeeds has given the warnings of its steps, in order. -/
theorem collisions_of_carryOutAll {steps : List Step}
    (hok : (emitter.carryOutAll session steps).result = .ok paths) :
    collisions (emitter.carryOutAll session steps).session.told =
      collisions session.told ++ warningsOf steps := by
  induction steps generalizing session paths with
  | nil => simp [carryOutAll, warningsOf]
  | cons step rest ih =>
    obtain ⟨first, others, hfirst, hothers, -, hsession⟩ := carryOutAll_cons_eq_ok hok
    have hsplit : warningsOf (step :: rest) = warningsOf [step] ++ warningsOf rest := by
      simp [warningsOf]
    rw [hsession, ih hothers, collisions_of_carryOut hfirst, hsplit, List.append_assoc]

theorem collisions_of_writeModules {globals : List Enum.Definition}
    {classes : Dictionary Json (List Enum.Definition)}
    (hok : (emitter.writeModules session globals classes).result = .ok paths) :
    collisions (emitter.writeModules session globals classes).session.told =
      collisions session.told ++ warningsOf (plan emitter.settings.globalModule globals classes) := by
  obtain ⟨-, hrun, hsession⟩ := writeModules_eq_ok hok
  have hcomplete : collisions [emitter.complete] = [] := rfl
  rw [hsession, Session.told_tell, collisions_append, collisions_of_carryOutAll hrun, hcomplete,
    List.append_nil]
  rfl

/-! ### Rehearsals -/

/-- The templates of an emission are one set: from the start to the end of the real run, and of
    the rehearsal, they read as they did before. -/
structure OneTemplateSet (emitter : Emitter) (session : Session) (globals : List Enum.Definition)
    (classes : Dictionary Json (List Enum.Definition)) : Prop where
  real : (emitter.prepare session.tree).2 = .ok () →
    emitter.ReadsAlike session.tree (emitter.prepared session)
      (plan emitter.settings.globalModule globals classes)
  rehearsed : emitter.rehearsal.ReadsAlike session.tree session
    (plan emitter.settings.globalModule globals classes)

/-- The real run fails before it comes to the step after some others: its directory cannot be
    made, or the file of a module before that step cannot be written. -/
inductive FailsBefore (emitter : Emitter) (session : Session) (globals : List Enum.Definition)
    (classes : Dictionary Json (List Enum.Definition)) (front : List Step) : Failure → Prop where
  | directory {e : FileTree.Error} : (emitter.prepare session.tree).2 = .error e →
      FailsBefore emitter session globals classes front (.file e)
  | module {earlier : List Step} {module owner : String} {definitions : List Enum.Definition}
      {e : FileTree.Error} :
      emitter.FailsAt (emitter.prepared session)
        (plan emitter.settings.globalModule globals classes) earlier
        (.write module owner definitions) (.file e) →
      earlier ++ [.write module owner definitions] <+: front →
      FailsBefore emitter session globals classes front (.file e)

section

variable {globals : List Enum.Definition} {classes : Dictionary Json (List Enum.Definition)}

theorem writeModules_eq_error {failure : Failure}
    (hfails : (emitter.writeModules session globals classes).result = .error failure) :
    (∃ e, (emitter.prepare session.tree).2 = .error e ∧ failure = .file e) ∨
      ((emitter.prepare session.tree).2 = .ok () ∧
        (emitter.carryOutAll (emitter.prepared session)
          (plan emitter.settings.globalModule globals classes)).result = .error failure) := by
  unfold writeModules at hfails
  dsimp only at hfails
  cases hprepare : (emitter.prepare session.tree).2 with
  | error e =>
    rw [hprepare] at hfails
    cases hfails
    exact Or.inl ⟨e, rfl, rfl⟩
  | ok _ =>
    rw [hprepare] at hfails
    refine Or.inr ⟨rfl, ?_⟩
    dsimp only at hfails
    split at hfails
    · rename_i e hrun
      cases hfails
      exact hrun
    · cases hfails

/-- What a rehearsal gives up is the first step that cannot be carried out. -/
theorem failsAt_of_rehearsal {failure : Failure}
    (hset : emitter.OneTemplateSet session globals classes)
    (hfails : (emitter.rehearsal.writeModules session globals classes).result = .error failure) :
    ∃ front step,
      emitter.rehearsal.FailsAt session (plan emitter.settings.globalModule globals classes)
        front step failure ∧
      (∀ earlier ∈ front, emitter.refusal? session.tree earlier = none) ∧
      emitter.refusal? session.tree step = some failure := by
  have hdry := emitter.dryRun_rehearsal
  rcases writeModules_eq_error hfails with ⟨e, hprepare, -⟩ | ⟨-, hrun⟩
  · rw [prepare_of_dryRun hdry] at hprepare
    cases hprepare
  · rw [prepared_of_dryRun hdry] at hrun
    obtain ⟨front, step, hat⟩ := failsAt_of_carryOutAll hrun
    obtain ⟨haccepted, hrefused | ⟨hreal, -⟩⟩ := hset.rehearsed.failsAt_cases hat
    · exact ⟨front, step, hat, haccepted, hrefused⟩
    · rw [hdry] at hreal
      cases hreal

/-- Steps that were all accepted come before a step that is refused. -/
theorem prefix_of_accepted {refusal : Step → Option Failure} {steps accepted front : List Step}
    {step : Step} {failure : Failure} (haccepted : accepted <+: steps)
    (hnone : ∀ earlier ∈ accepted, refusal earlier = none) (hplace : front ++ [step] <+: steps)
    (hrefused : refusal step = some failure) : accepted <+: front := by
  rcases List.prefix_or_prefix_of_prefix haccepted hplace with hbefore | hafter
  · rcases List.prefix_concat_iff.mp hbefore with heq | hfront
    · have hnone' := hnone step (by simp [heq])
      rw [hrefused] at hnone'
      cases hnone'
    · exact hfront
  · have hnone' := hnone step (hafter.subset (by simp))
    rw [hrefused] at hnone'
    cases hnone'

theorem rehearsal_eq_ok (hset : emitter.OneTemplateSet session globals classes)
    (hok : (emitter.writeModules session globals classes).result = .ok paths) :
    (emitter.rehearsal.writeModules session globals classes).result = .ok paths := by
  obtain ⟨hprepare, hrun, -⟩ := writeModules_eq_ok hok
  have haccepted := (hset.real hprepare).accepted hrun
  cases hresult : (emitter.rehearsal.writeModules session globals classes).result with
  | error failure =>
    obtain ⟨front, step, hat, -, hrefused⟩ := failsAt_of_rehearsal hset hresult
    have hmem : step ∈ plan emitter.settings.globalModule globals classes :=
      hat.place.subset (by simp)
    rw [haccepted step hmem] at hrefused
    cases hrefused
  | ok found =>
    obtain ⟨-, hrehearsed, -⟩ := writeModules_eq_ok hresult
    rw [paths_of_carryOutAll hrun, paths_of_carryOutAll hrehearsed]
    rfl

theorem fails_of_rehearsal {failure : Failure}
    (hset : emitter.OneTemplateSet session globals classes)
    (hfails : (emitter.rehearsal.writeModules session globals classes).result = .error failure) :
    ∃ front step, emitter.rehearsal.FailsAt session
        (plan emitter.settings.globalModule globals classes) front step failure ∧
      ∃ found, (emitter.writeModules session globals classes).result = .error found ∧
        (found = failure ∨ emitter.FailsBefore session globals classes front found) := by
  obtain ⟨front, step, hat, haccepted, hrefused⟩ := failsAt_of_rehearsal hset hfails
  refine ⟨front, step, hat, ?_⟩
  cases hresult : (emitter.writeModules session globals classes).result with
  | ok paths =>
    rw [rehearsal_eq_ok hset hresult] at hfails
    cases hfails
  | error found =>
    refine ⟨found, rfl, ?_⟩
    rcases writeModules_eq_error hresult with ⟨e, hprepare, rfl⟩ | ⟨hprepare, hrun⟩
    · exact Or.inr (.directory hprepare)
    · obtain ⟨front', step', hat'⟩ := failsAt_of_carryOutAll hrun
      obtain ⟨haccepted', hcause⟩ := (hset.real hprepare).failsAt_cases hat'
      rcases hcause with hrefused' | ⟨-, hnone, module, owner, definitions, e, rfl, rfl⟩
      · -- both runs give up the first step that is refused
        have hone : front' <+: front := prefix_of_accepted
          ((List.prefix_append _ _).trans hat'.place) haccepted' hat.place hrefused
        have hother : front <+: front' := prefix_of_accepted
          ((List.prefix_append _ _).trans hat.place) haccepted hat'.place hrefused'
        have hfront : front' = front := hone.eq_of_length_le hother.length_le
        have hstep : front' ++ [step'] = front ++ [step] := by
          have hle := List.prefix_of_prefix_length_le hat'.place hat.place (by simp [hfront])
          exact hle.eq_of_length (by simp [hfront])
        have hsame : step' = step := by
          rw [hfront] at hstep
          simpa using hstep
        rw [hsame, hrefused] at hrefused'
        exact Or.inl (Option.some.inj hrefused').symm
      · refine Or.inr (.module hat' ?_)
        refine prefix_of_accepted hat'.place ?_ hat.place hrefused
        intro earlier hearlier
        rcases List.mem_append.mp hearlier with hfront | hlast
        · exact haccepted' earlier hfront
        · rw [List.mem_singleton.mp hlast]
          exact hnone

end

/-! ### When templates are one set -/

section

variable {globals : List Enum.Definition}

theorem oneTemplateSet_of_package (hpackage : emitter.templates.directory = none)
    (session : Session) (globals : List Enum.Definition)
    (classes : Dictionary Json (List Enum.Definition)) :
    emitter.OneTemplateSet session globals classes where
  real _ _ _ _ _ := Template.Library.source_of_no_directory hpackage _ _ _
  rehearsed _ _ _ _ := Template.Library.source_of_no_directory hpackage _ _ _

/-- Templates stay as they are in a directory that stands apart from the modules and the log
    files. -/
theorem oneTemplateSet_of_apart {classes : Dictionary String (List Enum.Definition)}
    {here : Location} (hreal : emitter.dryRun = false)
    (hplain : ∀ module ∈ claimedModules emitter.settings.globalModule globals classes,
      '/' ∉ module.toList)
    (hstands : (emitter.prepare session.tree).2 = .ok () →
      emitter.Stands (emitter.prepared session).tree here)
    (hapart : emitter.TemplatesApart session globals classes here) :
    emitter.OneTemplateSet session globals (byText classes) where
  real hprepare front hfront name hname := by
    obtain ⟨back, hplan⟩ := hfront
    obtain ⟨hdiffers, hkeeps, -⟩ :=
      differsOnly_carryOutAll hreal hplain (hstands hprepare) hplan.symm
    exact Template.Library.source_eq_of_differsOnly hapart.rooted hkeeps hdiffers
      (hapart.apart name hname)
  rehearsed front _ name hname := by
    have hfollows := follows_carryOutAll_of_dryRun emitter.dryRun_rehearsal session front
    have hdiffers : FileTree.DiffersOnly (emitter.MayWrite session globals classes here)
        (fun _ => False) session.tree
        (emitter.rehearsal.carryOutAll session front).session.tree := by
      intro location hlocation
      exact Or.inl (hfollows.node location id fun hlogs => hlocation (Or.inl hlogs))
    exact Template.Library.source_eq_of_differsOnly hapart.rooted hfollows.keeps hdiffers
      (hapart.apart name hname)

end

/-- A rehearsal leaves every node as it is but for the log files.  When the templates are one
    set, an emission that returns was foretold by its rehearsal, with the same files and the same
    warnings; and one whose rehearsal fails fails as well, with the same failure or before it
    comes to that step. -/
theorem rehearsal_foretells (emitter : Emitter) (session : Session)
    (globals : List Enum.Definition) (classes : Dictionary Json (List Enum.Definition)) :
    (∀ location, ¬ session.LogsTo location →
      (emitter.rehearsal.writeModules session globals classes).session.tree.node? location =
        session.tree.node? location) ∧
      (emitter.OneTemplateSet session globals classes →
        (∀ paths, (emitter.writeModules session globals classes).result = .ok paths →
          (emitter.rehearsal.writeModules session globals classes).result = .ok paths ∧
            collisions (emitter.rehearsal.writeModules session globals classes).session.told =
              collisions (emitter.writeModules session globals classes).session.told) ∧
        ∀ failure,
          (emitter.rehearsal.writeModules session globals classes).result = .error failure →
            ∃ front step, emitter.rehearsal.FailsAt session
                (plan emitter.settings.globalModule globals classes) front step failure ∧
              ∃ found, (emitter.writeModules session globals classes).result = .error found ∧
                (found = failure ∨
                  emitter.FailsBefore session globals classes front found)) := by
  have hfollows := follows_writeModules_of_dryRun emitter.dryRun_rehearsal session globals classes
  refine ⟨fun location hlog => hfollows.node location id hlog, ?_⟩
  intro hset
  constructor
  · intro paths hok
    have hrehearsed := rehearsal_eq_ok hset hok
    refine ⟨hrehearsed, ?_⟩
    rw [collisions_of_writeModules hok, collisions_of_writeModules hrehearsed]
    rfl
  · intro failure hfails
    exact fails_of_rehearsal hset hfails

theorem rooted_smallSession : smallSession.tree.Rooted := by
  intro here name hnode
  obtain ⟨node, hnode⟩ := Option.ne_none_iff_exists'.mp hnode
  rw [FileTree.node?, if_neg (by simp)] at hnode
  have hkey := Dictionary.mem_keys_of_get? hnode
  have hhere : here = (here ++ [name]).dropLast := by simp
  simp only [smallSession, Dictionary.keys, List.map_cons, List.map_nil, List.mem_cons,
    List.not_mem_nil, or_false] at hkey
  rcases hkey with hkey | hkey | hkey
  · rw [hhere, hkey]
    decide
  · rw [hhere, hkey]
    decide
  · rw [hhere, hkey]
    decide

theorem stands_of_small_emission :
    smallEmitter.Stands (smallEmitter.prepared smallSession).tree ["gen"] :=
  ⟨by decide, by decide⟩

theorem templatesApart_of_small_emission :
    smallEmitter.TemplatesApart smallSession [emptyEnum] namesakes ["gen"] := by
  refine ⟨rooted_smallSession, ?_⟩
  intro name hname directory hdirectory
  cases hdirectory
  refine ⟨["t"], by decide, ?_⟩
  rintro (⟨handler, hhandler, -⟩ | ⟨module, -, hplace⟩)
  · cases hhandler
  · simp [placeOf] at hplace

theorem oneTemplateSet_of_small_emission :
    smallEmitter.OneTemplateSet smallSession [emptyEnum] (byText namesakes) :=
  oneTemplateSet_of_apart rfl (by decide) (fun _ => stands_of_small_emission)
    templatesApart_of_small_emission

/-- The rehearsal of the small emission tells its files, and that one class is passed over. -/
theorem small_emission_foretold :
    smallEmitter.OneTemplateSet smallSession [emptyEnum] (byText namesakes) ∧
      (smallEmitter.rehearsal.writeModules smallSession [emptyEnum] (byText namesakes)).result =
        .ok smallPaths ∧
      collisions (smallEmitter.rehearsal.writeModules smallSession [emptyEnum]
          (byText namesakes)).session.told =
        collisions (smallEmitter.writeModules smallSession [emptyEnum]
          (byText namesakes)).session.told :=
  ⟨oneTemplateSet_of_small_emission,
    ((rehearsal_foretells smallEmitter smallSession [emptyEnum] (byText namesakes)).2
      oneTemplateSet_of_small_emission).1 smallPaths small_emission_returns⟩

end EngineBindings.Emitter
