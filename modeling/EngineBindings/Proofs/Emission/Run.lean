/-
  EngineBindings/Proofs/Emission/Run.lean
  =======================================
  **How a plan is carried out.**

  A row of steps stops at the first failure, so a row that succeeds can be cut anywhere: its
  front part succeeds as well, and what is left begins with the session that the front part
  left (`carryOutAll_append_eq_ok`).  What it returns are the files of the modules that the
  steps write (`paths_of_carryOutAll`), it has no class that is refused, and what it says
  about the classes that are passed over stays said (`passedOver_mem_told`).

  When the directory of the modules is there and their names have no slash, each step changes
  one place at most, a child of the directory (`follows_carryOut`).  So a row of steps, whether
  it succeeds or fails, leaves everything else alone (`follows_carryOutAll`), and a module that
  was written holds its text to the end (`holdsText_of_write_mem`).
-/
import EngineBindings.Emission.Emitter
import EngineBindings.Proofs.Emission.Plan
import EngineBindings.Proofs.FileTree.Path
import EngineBindings.Proofs.FileTree.Write
import EngineBindings.Proofs.Session
import EngineBindings.Proofs.Template.Library

namespace EngineBindings.Emitter

open Emission

variable {emitter : Emitter} {session : Session} {paths : List Path}

/-! ### One step -/

def writeText (emitter : Emitter) (tree : FileTree) (module text : String) : WriteOutcome :=
  tree.write (emitter.modulePath module) text { dryRun := emitter.dryRun }

def afterWrite (emitter : Emitter) (session : Session) (module text : String) : Session :=
  (session.withTree (emitter.writeText session.tree module text).tree).tell
    (emitter.writeText session.tree module text).log

/-- A module that is written was rendered, and the write of its file succeeded. -/
theorem writeModule_eq_ok {module owner : String} {definitions : List Enum.Definition}
    (hok : (emitter.writeModule session module owner definitions).result = .ok paths) :
    ∃ text written, emitter.moduleText session.tree owner definitions = .ok text ∧
      (emitter.writeText session.tree module text).result = .ok written ∧
      paths = [emitter.modulePath module] ∧
      (emitter.writeModule session module owner definitions).session =
        emitter.afterWrite session module text := by
  unfold writeModule at hok ⊢
  cases htext : emitter.moduleText session.tree owner definitions with
  | error e =>
    rw [htext] at hok
    cases hok
  | ok text =>
    rw [htext] at hok
    dsimp only at hok ⊢
    cases hresult : (session.tree.write (emitter.modulePath module) text
        { dryRun := emitter.dryRun }).result with
    | error e =>
      rw [hresult] at hok
      cases hok
    | ok written =>
      rw [hresult] at hok
      cases hok
      exact ⟨text, written, rfl, hresult, rfl, rfl⟩

/-- A module that cannot be rendered leaves the session as it is; any other attempt leaves the
    session after a write, with more records told if the write failed. -/
theorem writeModule_session_cases (emitter : Emitter) (session : Session)
    (module owner : String) (definitions : List Enum.Definition) :
    (emitter.writeModule session module owner definitions).session = session ∨
      ∃ text records, (emitter.writeModule session module owner definitions).session =
        (emitter.afterWrite session module text).tell records := by
  unfold writeModule
  cases emitter.moduleText session.tree owner definitions with
  | error e => exact Or.inl rfl
  | ok text =>
    right
    dsimp only
    split
    · exact ⟨text, _, rfl⟩
    · exact ⟨text, [], by rw [Session.tell_nil]; rfl⟩

theorem told_carryOut (emitter : Emitter) (session : Session) (step : Step) :
    session.told <+: (emitter.carryOut session step).session.told := by
  cases step with
  | write module owner definitions =>
    change session.told <+: (emitter.writeModule session module owner definitions).session.told
    rcases emitter.writeModule_session_cases session module owner definitions with
      hsame | ⟨text, records, hwritten⟩
    · exact ⟨[], by rw [hsame, List.append_nil]⟩
    · rw [hwritten, afterWrite, Session.told_tell, Session.told_tell, Session.told_withTree,
        List.append_assoc]
      exact List.prefix_append _ _
  | passOver holder className module => exact List.prefix_append _ _
  | refuse name => exact List.prefix_rfl

/-! ### Rows of steps -/

theorem carryOutAll_cons_eq_ok {step : Step} {rest : List Step}
    (hok : (emitter.carryOutAll session (step :: rest)).result = .ok paths) :
    ∃ first others, (emitter.carryOut session step).result = .ok first ∧
      (emitter.carryOutAll (emitter.carryOut session step).session rest).result = .ok others ∧
      paths = first ++ others ∧
      (emitter.carryOutAll session (step :: rest)).session =
        (emitter.carryOutAll (emitter.carryOut session step).session rest).session := by
  rw [carryOutAll] at hok
  cases hfirst : (emitter.carryOut session step).result with
  | error e =>
    simp only [hfirst] at hok
    cases hok
  | ok first =>
    simp only [hfirst] at hok
    cases hothers : (emitter.carryOutAll (emitter.carryOut session step).session rest).result with
    | error e =>
      rw [hothers] at hok
      cases hok
    | ok others =>
      rw [hothers] at hok
      cases hok
      refine ⟨first, others, rfl, rfl, rfl, ?_⟩
      simp only [carryOutAll, hfirst]

theorem carryOutAll_singleton {step : Step}
    (hok : (emitter.carryOut session step).result = .ok paths) :
    (emitter.carryOutAll session [step]).result = .ok paths := by
  simp only [carryOutAll, hok, Except.map, List.append_nil]

/-- A row of steps that succeeds, cut in two. -/
theorem carryOutAll_append_eq_ok {front back : List Step}
    (hok : (emitter.carryOutAll session (front ++ back)).result = .ok paths) :
    ∃ first others, (emitter.carryOutAll session front).result = .ok first ∧
      (emitter.carryOutAll (emitter.carryOutAll session front).session back).result =
        .ok others ∧
      paths = first ++ others ∧
      (emitter.carryOutAll session (front ++ back)).session =
        (emitter.carryOutAll (emitter.carryOutAll session front).session back).session := by
  induction front generalizing session paths with
  | nil => exact ⟨[], paths, rfl, hok, rfl, rfl⟩
  | cons step rest ih =>
    rw [List.cons_append] at hok ⊢
    obtain ⟨one, more, hone, hmore, rfl, hsession⟩ := carryOutAll_cons_eq_ok hok
    obtain ⟨first, others, hfirst, hothers, rfl, hlast⟩ := ih hmore
    have hfront : emitter.carryOutAll session (step :: rest) =
        ⟨(emitter.carryOutAll (emitter.carryOut session step).session rest).session,
          .ok (one ++ first)⟩ := by
      simp only [carryOutAll, hone, hfirst]
      rfl
    rw [hfront]
    exact ⟨one ++ first, others, rfl, hothers, (List.append_assoc ..).symm, hsession.trans hlast⟩

theorem told_carryOutAll (emitter : Emitter) (session : Session) (steps : List Step) :
    session.told <+: (emitter.carryOutAll session steps).session.told := by
  induction steps generalizing session with
  | nil => exact List.prefix_rfl
  | cons step rest ih =>
    rw [carryOutAll]
    have hstep := emitter.told_carryOut session step
    dsimp only
    split
    · exact hstep
    · exact hstep.trans (ih _)

theorem paths_of_carryOut {step : Step}
    (hok : (emitter.carryOut session step).result = .ok paths) :
    paths = (modulesOf [step]).map emitter.modulePath := by
  cases step with
  | write module owner definitions =>
    obtain ⟨_, _, _, _, hpaths, _⟩ := writeModule_eq_ok hok
    exact hpaths
  | passOver holder className module => exact (Except.ok.inj hok).symm
  | refuse name => cases hok

/-- What is returned are the files of the modules that are written, in order. -/
theorem paths_of_carryOutAll {steps : List Step}
    (hok : (emitter.carryOutAll session steps).result = .ok paths) :
    paths = (modulesOf steps).map emitter.modulePath := by
  induction steps generalizing session paths with
  | nil => exact (Except.ok.inj hok).symm
  | cons step rest ih =>
    obtain ⟨first, others, hfirst, hothers, rfl, -⟩ := carryOutAll_cons_eq_ok hok
    rw [paths_of_carryOut hfirst, ih hothers, ← List.map_append, ← modulesOf_append]
    rfl

theorem refuse_not_mem_of_carryOutAll {steps : List Step}
    (hok : (emitter.carryOutAll session steps).result = .ok paths) (key : Json) :
    .refuse key ∉ steps := by
  intro hmem
  obtain ⟨before, after, rfl⟩ := List.append_of_mem hmem
  obtain ⟨_, _, _, hback, _, _⟩ := carryOutAll_append_eq_ok hok
  obtain ⟨_, _, hrefused, _, _, _⟩ := carryOutAll_cons_eq_ok hback
  cases hrefused

theorem passedOver_mem_told {steps : List Step} {holder className module : String}
    (hok : (emitter.carryOutAll session steps).result = .ok paths)
    (hstep : .passOver holder className module ∈ steps) :
    passedOver holder className module ∈ (emitter.carryOutAll session steps).session.told := by
  obtain ⟨before, after, rfl⟩ := List.append_of_mem hstep
  obtain ⟨_, _, _, hback, _, hsession⟩ := carryOutAll_append_eq_ok hok
  obtain ⟨_, _, _, _, _, hlast⟩ := carryOutAll_cons_eq_ok hback
  rw [hsession, hlast]
  refine (emitter.told_carryOutAll _ after).subset ?_
  exact List.mem_append_right _ (List.mem_singleton_self _)

/-! ### Modules in one directory -/

structure Stands (emitter : Emitter) (tree : FileTree) (here : Location) : Prop where
  walk : tree.walk [] emitter.directory.parts = .ok here
  directory : tree.node? here = some .directory

def placeOf (here : Location) (module : String) : Location :=
  here ++ [module ++ ".rs"]

theorem placeOf_injective (here : Location) : Function.Injective (placeOf here) := by
  intro module module' hplace
  have hname : module ++ ".rs" = module' ++ ".rs" := by
    simpa [placeOf] using hplace
  exact String.append_left_inj _ |>.mp hname

theorem fileName_ne (module : String) {other : String} (hshort : other.length < 3) :
    module ++ ".rs" ≠ other := by
  intro heq
  rw [← heq, String.length_append] at hshort
  have hlength : ".rs".length = 3 := rfl
  omega

theorem slash_not_mem_fileName {module : String} (hplain : '/' ∉ module.toList) :
    '/' ∉ (module ++ ".rs").toList := by
  rw [String.toList_append, List.mem_append, not_or]
  exact ⟨hplain, by decide⟩

theorem modulePath_of_no_slash (emitter : Emitter) {module : String}
    (hplain : '/' ∉ module.toList) :
    emitter.modulePath module =
      ⟨emitter.directory.slashes, emitter.directory.parts ++ [module ++ ".rs"]⟩ :=
  emitter.directory.join_of_no_slash (slash_not_mem_fileName hplain)
    (fileName_ne module (by decide)) (fileName_ne module (by decide))

section

variable {here : Location}

theorem Stands.of_keepsDirectories {before after : FileTree} (hstands : emitter.Stands before here)
    (hkeeps : FileTree.KeepsDirectories before after) : emitter.Stands after here where
  walk := FileTree.walk_of_keepsDirectories hkeeps hstands.walk
  directory := hkeeps here hstands.directory

theorem Stands.childOf {tree : FileTree} (hstands : emitter.Stands tree here) {module : String}
    (hplain : '/' ∉ module.toList) :
    tree.ChildOf (emitter.modulePath module) here (module ++ ".rs") := by
  rw [modulePath_of_no_slash emitter hplain]
  have hparent : (⟨emitter.directory.slashes,
      emitter.directory.parts ++ [module ++ ".rs"]⟩ : Path).parent = emitter.directory := by
    simp [Path.parent]
  constructor
  · rw [hparent]
  · exact fileName_ne module (by decide)
  · rw [hparent]
    exact hstands.walk
  · exact hstands.directory

/-- A write touches the place of its module alone. -/
theorem follows_afterWrite (hstands : emitter.Stands session.tree here) {module : String}
    (hplain : '/' ∉ module.toList) (text : String) :
    Session.Follows (· = placeOf here module) session
      (emitter.afterWrite session module text) := by
  have hwritten : Session.Follows (· = placeOf here module) session
      (session.withTree (emitter.writeText session.tree module text).tree) := by
    rcases (hstands.childOf hplain).write_tree_cases text { dryRun := emitter.dryRun } with
      hsame | ⟨bytes, mode, hnode, hplaced⟩
    · rw [writeText, hsame]
      exact Session.follows_withTree (FileTree.KeepsDirectories.refl _) fun _ _ => rfl
    · rw [writeText, hplaced]
      exact Session.follows_withTree (FileTree.keepsDirectories_insert hnode)
        fun location hlocation => FileTree.node?_insert_of_ne session.tree _ (Ne.symm hlocation)
  exact hwritten.trans ((Session.follows_tell _ _).mono fun _ h => h.elim)

/-- A step touches the place of the module that it writes, whether it succeeds or fails. -/
theorem follows_carryOut (hstands : emitter.Stands session.tree here) (step : Step)
    (hplain : ∀ module ∈ modulesOf [step], '/' ∉ module.toList) :
    Session.Follows (fun location => ∃ module ∈ modulesOf [step], location = placeOf here module)
      session (emitter.carryOut session step).session := by
  cases step with
  | write module owner definitions =>
    change Session.Follows _ session (emitter.writeModule session module owner definitions).session
    have hmodule : module ∈ modulesOf [.write module owner definitions] :=
      List.mem_singleton_self module
    rcases emitter.writeModule_session_cases session module owner definitions with
      hsame | ⟨text, records, hwritten⟩
    · rw [hsame]
      exact Session.Follows.refl session
    · rw [hwritten]
      refine (follows_afterWrite hstands (hplain module hmodule) text).mono ?_ |>.trans
        ((Session.follows_tell _ records).mono fun _ h => h.elim)
      exact fun location hlocation => ⟨module, hmodule, hlocation⟩
  | passOver holder className module =>
    exact (Session.follows_tell session _).mono fun _ h => h.elim
  | refuse name => exact Session.Follows.refl session

/-- A row of steps touches the places of the modules that it writes, whether it succeeds or
    fails. -/
theorem follows_carryOutAll (hstands : emitter.Stands session.tree here) (steps : List Step)
    (hplain : ∀ module ∈ modulesOf steps, '/' ∉ module.toList) :
    Session.Follows (fun location => ∃ module ∈ modulesOf steps, location = placeOf here module)
      session (emitter.carryOutAll session steps).session := by
  induction steps generalizing session with
  | nil => exact Session.Follows.refl session
  | cons step rest ih =>
    have hmodules : modulesOf (step :: rest) = modulesOf [step] ++ modulesOf rest :=
      modulesOf_append [step] rest
    rw [hmodules] at hplain ⊢
    have hfirst := follows_carryOut hstands step fun module hmodule =>
      hplain module (List.mem_append_left _ hmodule)
    have hothers := ih (hstands.of_keepsDirectories hfirst.keeps) fun module hmodule =>
      hplain module (List.mem_append_right _ hmodule)
    have hstep : Session.Follows (fun location => ∃ module ∈ modulesOf [step] ++ modulesOf rest,
        location = placeOf here module) session (emitter.carryOut session step).session :=
      hfirst.mono fun location ⟨module, hmodule, hplace⟩ =>
        ⟨module, List.mem_append_left _ hmodule, hplace⟩
    rw [carryOutAll]
    dsimp only
    split
    · exact hstep
    · exact hstep.trans (hothers.mono fun location ⟨module, hmodule, hplace⟩ =>
        ⟨module, List.mem_append_right _ hmodule, hplace⟩)

/-- A module that was just written holds the text that it was rendered to, unless its file is a
    log file. -/
theorem holdsText_writeModule (hreal : emitter.dryRun = false)
    (hstands : emitter.Stands session.tree here) {module owner : String}
    {definitions : List Enum.Definition} (hplain : '/' ∉ module.toList)
    (hlog : ¬ session.LogsTo (placeOf here module))
    (hok : (emitter.writeModule session module owner definitions).result = .ok paths) :
    ∃ text, emitter.moduleText session.tree owner definitions = .ok text ∧
      (emitter.writeModule session module owner definitions).session.tree.HoldsText
        (emitter.modulePath module) (placeOf here module) text := by
  obtain ⟨text, written, htext, hwritten, -, hsession⟩ := writeModule_eq_ok hok
  have hfile : (session.withTree (emitter.writeText session.tree module text).tree).tree.HoldsText
      (emitter.modulePath module) (placeOf here module) text :=
    (hstands.childOf hplain).holdsText_write hreal rfl hwritten
  refine ⟨text, htext, ?_⟩
  rw [hsession]
  exact hfile.of_keepsDirectories (Session.keepsDirectories_tell _ _)
    (Session.node?_tell _ fun h => hlog h.of_withTree)

/-- The text of a module as it is rendered when the turn of the module comes. -/
def RenderedInTurn (emitter : Emitter) (session : Session) (steps : List Step)
    (module owner : String) (definitions : List Enum.Definition) (text : String) : Prop :=
  ∃ before after, steps = before ++ .write module owner definitions :: after ∧
    emitter.moduleText (emitter.carryOutAll session before).session.tree owner definitions =
      .ok text

/-- A module that a row of steps writes once holds its text when the row is done. -/
theorem holdsText_of_write_mem (hreal : emitter.dryRun = false)
    (hstands : emitter.Stands session.tree here) {steps : List Step} {module owner : String}
    {definitions : List Enum.Definition}
    (hplain : ∀ module ∈ modulesOf steps, '/' ∉ module.toList)
    (honce : (modulesOf steps).Nodup) (hlog : ¬ session.LogsTo (placeOf here module))
    (hok : (emitter.carryOutAll session steps).result = .ok paths)
    (hstep : .write module owner definitions ∈ steps) :
    ∃ text, emitter.RenderedInTurn session steps module owner definitions text ∧
      (emitter.carryOutAll session steps).session.tree.HoldsText (emitter.modulePath module)
        (placeOf here module) text := by
  obtain ⟨before, after, rfl⟩ := List.append_of_mem hstep
  have hsplit : modulesOf (before ++ .write module owner definitions :: after) =
      modulesOf before ++ module :: modulesOf after := modulesOf_append _ _
  rw [hsplit] at hplain honce
  obtain ⟨_, _, _, hback, _, hsession⟩ := carryOutAll_append_eq_ok hok
  obtain ⟨_, _, hwrite, _, _, hlast⟩ := carryOutAll_cons_eq_ok hback
  -- the three stretches of the row: before the module, the module, after it
  have hbefore := follows_carryOutAll hstands before fun m hm =>
    hplain m (List.mem_append_left _ hm)
  have hstands' := hstands.of_keepsDirectories hbefore.keeps
  have hmodule : '/' ∉ module.toList :=
    hplain module (List.mem_append_right _ List.mem_cons_self)
  have hlog' : ¬ (emitter.carryOutAll session before).session.LogsTo (placeOf here module) :=
    fun h => hlog (hbefore.logsTo _ h)
  obtain ⟨text, htext, hholds⟩ := holdsText_writeModule hreal hstands' hmodule hlog' hwrite
  have hturn := follows_carryOut hstands' (.write module owner definitions) fun m hm =>
    List.mem_singleton.mp hm ▸ hmodule
  have hafter := follows_carryOutAll
    (hstands'.of_keepsDirectories hturn.keeps) after fun m hm =>
      hplain m (List.mem_append_right _ (List.mem_cons_of_mem _ hm))
  refine ⟨text, ⟨before, after, rfl, htext⟩, ?_⟩
  rw [hsession, hlast]
  refine hholds.of_keepsDirectories hafter.keeps
    (hafter.node _ ?_ fun h => hlog' (hturn.logsTo _ h))
  rintro ⟨other, hother, hplace⟩
  rw [← placeOf_injective here hplace] at hother
  exact (List.nodup_cons.mp (List.nodup_append.mp honce).2.1).1 hother

end

/-! ### Emissions -/

def prepared (emitter : Emitter) (session : Session) : Session :=
  session.withTree (emitter.prepare session.tree).1

/-- An emission that returns has prepared its directory and carried out its plan. -/
theorem writeModules_eq_ok {globals : List Enum.Definition}
    {classes : Dictionary Json (List Enum.Definition)}
    (hok : (emitter.writeModules session globals classes).result = .ok paths) :
    (emitter.prepare session.tree).2 = .ok () ∧
      (emitter.carryOutAll (emitter.prepared session)
        (plan emitter.settings.globalModule globals classes)).result = .ok paths ∧
      (emitter.writeModules session globals classes).session =
        (emitter.carryOutAll (emitter.prepared session)
          (plan emitter.settings.globalModule globals classes)).session.tell
            [emitter.complete] := by
  unfold writeModules at hok ⊢
  dsimp only at hok ⊢
  cases hprepare : (emitter.prepare session.tree).2 with
  | error e =>
    rw [hprepare] at hok
    cases hok
  | ok _ =>
    rw [hprepare] at hok
    dsimp only at hok ⊢
    cases hrun : (emitter.carryOutAll (session.withTree (emitter.prepare session.tree).1)
        (plan emitter.settings.globalModule globals classes)).result with
    | error e =>
      rw [hrun] at hok
      cases hok
    | ok _ =>
      rw [hrun] at hok
      cases hok
      exact ⟨rfl, hrun, rfl⟩

/-- An emission returns what its plan returns, once its directory is prepared. -/
theorem writeModules_of_carryOutAll {globals : List Enum.Definition}
    {classes : Dictionary Json (List Enum.Definition)}
    (hprepare : (emitter.prepare session.tree).2 = .ok ())
    (hrun : (emitter.carryOutAll (emitter.prepared session)
      (plan emitter.settings.globalModule globals classes)).result = .ok paths) :
    (emitter.writeModules session globals classes).result = .ok paths := by
  unfold prepared at hrun
  unfold writeModules
  dsimp only
  rw [hprepare]
  dsimp only
  rw [hrun]

/-! ### Rendering -/

/-- A module is rendered alike wherever its two templates read the same. -/
theorem moduleText_congr {before after : FileTree}
    (htemplates : ∀ name ∈ [emitter.settings.enumTemplate, emitter.settings.moduleTemplate],
      emitter.templates.source after name = emitter.templates.source before name)
    (owner : String) (definitions : List Enum.Definition) :
    emitter.moduleText after owner definitions = emitter.moduleText before owner definitions := by
  have henum : emitter.enumText after = emitter.enumText before := by
    funext definition
    exact Template.Library.render_congr (htemplates _ List.mem_cons_self) _
  unfold moduleText
  rw [henum]
  refine congrArg _ (funext fun blocks => ?_)
  exact Template.Library.render_congr
    (htemplates _ (List.mem_cons_of_mem _ List.mem_cons_self)) _

/-! ### A small emission -/

theorem result_eq_ok {outcome : EmissionOutcome} (hpaths : outcome.result.toOption = some paths) :
    outcome.result = .ok paths := by
  cases hresult : outcome.result with
  | error e =>
    rw [hresult] at hpaths
    cases hpaths
  | ok found =>
    rw [hresult] at hpaths
    rw [Option.some.inj hpaths]

/-- Two templates of a user and nothing else; a module is no more than the name of its owner. -/
def smallSession : Session where
  tree := ⟨[(["t"], .directory), (["t", "enum"], .file "enum".toUTF8 0o644),
    (["t", "module"], .file "\x7b\x7b owner \x7d\x7d".toUTF8 0o644)]⟩
  directory := .root
  describe := fun _ => ""

def smallEmitter : Emitter where
  directory := ⟨1, ["gen"]⟩
  templates := { directory := some ⟨1, ["t"]⟩ }
  settings := { enumTemplate := "enum", moduleTemplate := "module" }

def emptyEnum : Enum.Definition := ⟨.string "E", [], false, none, "i32", "i64"⟩

/-- A class without enums and two classes with one module. -/
def namesakes : Dictionary String (List Enum.Definition) :=
  [("Tree", []), ("Node", [emptyEnum]), ("node", [emptyEnum])]

def smallPaths : List Path := [⟨1, ["gen", "global.rs"]⟩, ⟨1, ["gen", "node.rs"]⟩]

theorem small_emission_returns :
    (smallEmitter.writeModules smallSession [emptyEnum] (byText namesakes)).result =
      .ok smallPaths :=
  result_eq_ok (by decide +kernel)

end EngineBindings.Emitter
