/-
  EngineBindings/Proofs/Emission/Interruption.lean
  ================================================
  **What an emission that fails leaves behind.**

  The steps of a plan stand for the entries of an API, so a plan that is cut at a step is a plan
  for the entries before one of them (`plan_cut`).  A step that fails leaves the tree as it found
  it (`follows_carryOut_of_error`): a module that cannot be rendered is not written at all, and a
  write that fails takes its prepared file away.

  So an emission that is interrupted at an entry leaves the tree of an emission of the entries
  before it, which returns; the modules of these are complete, and the files of the module that
  failed and of all later ones are those from before (`interrupted_emission`).
-/
import EngineBindings.Proofs.Emission.DryRun

namespace EngineBindings

namespace FileTree

def SameFile (before after : FileTree) (location : Location) : Prop :=
  ∀ bytes mode, after.node? location = some (.file bytes mode) ↔
    before.node? location = some (.file bytes mode)

end FileTree

namespace Emission

/-! ### Plans cut at a step -/

/-- An entry of an API with enums, together with the entries before it: the global scope comes
    first, then the classes in order. -/
inductive EntryAt (globalModule : String) (globals : List Enum.Definition)
    (classes : Dictionary String (List Enum.Definition)) :
    (earlierGlobals : List Enum.Definition) →
    (earlierClasses : Dictionary String (List Enum.Definition)) →
    (module owner : String) → List Enum.Definition → Prop where
  | globalScope : globals ≠ [] →
      EntryAt globalModule globals classes [] [] globalModule globalOwner globals
  | ofClass {before after : Dictionary String (List Enum.Definition)} {name : String}
      {definitions : List Enum.Definition} :
      classes = before ++ (name, definitions) :: after → definitions ≠ [] →
      EntryAt globalModule globals classes globals before (Naming.moduleName name) name definitions

theorem byText_cons (name : String) (definitions : List Enum.Definition)
    (rest : Dictionary String (List Enum.Definition)) :
    byText ((name, definitions) :: rest) = (.string name, definitions) :: byText rest := rfl

/-- The steps before one that writes are those for the classes before its class. -/
theorem planClasses_cut {holders : Dictionary String String}
    {classes : Dictionary String (List Enum.Definition)} {front back : List Step}
    {module owner : String} {definitions : List Enum.Definition}
    (hplan : planClasses holders (byText classes) =
      front ++ .write module owner definitions :: back) :
    ∃ before after, classes = before ++ (owner, definitions) :: after ∧ definitions ≠ [] ∧
      module = Naming.moduleName owner ∧ front = planClasses holders (byText before) := by
  induction classes generalizing holders front with
  | nil => simp [byText, planClasses] at hplan
  | cons entry rest ih =>
    obtain ⟨name, ds⟩ := entry
    rw [byText_cons] at hplan
    by_cases hlisted : ds = []
    · subst hlisted
      rw [planClasses_cons_empty] at hplan
      obtain ⟨before, after, rfl, hne, hmodule, rfl⟩ := ih hplan
      refine ⟨(name, []) :: before, after, rfl, hne, hmodule, ?_⟩
      rw [byText_cons, planClasses_cons_empty]
    · cases htable : Dictionary.get? (Naming.moduleName name) holders with
      | none =>
        rw [planClasses_cons_free hlisted htable] at hplan
        cases front with
        | nil =>
          -- the class at hand is the one whose module is written
          cases hplan
          exact ⟨[], rest, rfl, hlisted, rfl, rfl⟩
        | cons step front =>
          obtain ⟨rfl, hrest⟩ := List.cons.inj hplan
          obtain ⟨before, after, rfl, hne, hmodule, rfl⟩ := ih hrest
          refine ⟨(name, ds) :: before, after, rfl, hne, hmodule, ?_⟩
          rw [byText_cons, planClasses_cons_free hlisted htable]
      | some holder =>
        rw [planClasses_cons_taken hlisted htable] at hplan
        cases front with
        | nil => cases hplan
        | cons step front =>
          obtain ⟨rfl, hrest⟩ := List.cons.inj hplan
          obtain ⟨before, after, rfl, hne, hmodule, rfl⟩ := ih hrest
          refine ⟨(name, ds) :: before, after, rfl, hne, hmodule, ?_⟩
          rw [byText_cons, planClasses_cons_taken hlisted htable]

/-- The steps before one that writes are the plan for the entries before its entry. -/
theorem plan_cut {globalModule : String} {globals : List Enum.Definition}
    {classes : Dictionary String (List Enum.Definition)} {front back : List Step}
    {module owner : String} {definitions : List Enum.Definition}
    (hplan : plan globalModule globals (byText classes) =
      front ++ .write module owner definitions :: back) :
    ∃ earlierGlobals earlierClasses,
      EntryAt globalModule globals classes earlierGlobals earlierClasses module owner
          definitions ∧
        front = plan globalModule earlierGlobals (byText earlierClasses) := by
  have hclass : ∀ rest, planClasses [(globalModule, globalOwner)] (byText classes) =
      rest ++ .write module owner definitions :: back →
        ∃ before, EntryAt globalModule globals classes globals before module owner definitions ∧
          rest = planClasses [(globalModule, globalOwner)] (byText before) := by
    intro rest hrest
    obtain ⟨before, after, hclasses, hne, rfl, hfront⟩ := planClasses_cut hrest
    exact ⟨before, .ofClass hclasses hne, hfront⟩
  by_cases hglobals : globals = []
  · subst hglobals
    obtain ⟨before, hentry, hfront⟩ := hclass front hplan
    exact ⟨[], before, hentry, hfront⟩
  · have hscope : ∀ table, plan globalModule globals table =
        .write globalModule globalOwner globals ::
          planClasses [(globalModule, globalOwner)] table := by
      intro table
      rw [plan, if_neg (by simpa using hglobals)]
      rfl
    rw [hscope] at hplan
    cases front with
    | nil =>
      cases hplan
      exact ⟨[], [], .globalScope hglobals, rfl⟩
    | cons step front =>
      obtain ⟨rfl, hrest⟩ := List.cons.inj hplan
      obtain ⟨before, hentry, rfl⟩ := hclass front hrest
      exact ⟨globals, before, hentry, (hscope _).symm⟩

/-- Classes that are named by texts have no step that refuses one of them. -/
theorem refuse_not_mem_planClasses {holders : Dictionary String String}
    {classes : List (Json × List Enum.Definition)} (hnamed : NamedByTexts classes) (key : Json) :
    .refuse key ∉ planClasses holders classes := by
  induction classes generalizing holders with
  | nil => nofun
  | cons entry rest ih =>
    have hrest : NamedByTexts rest := fun e he => hnamed e (List.mem_cons_of_mem _ he)
    rcases entry_cases entry with ⟨key', rfl⟩ | ⟨name, definitions, rfl, hlisted⟩ |
      ⟨key', definitions, rfl, hlisted, hkey⟩
    · rw [planClasses_cons_empty]
      exact ih hrest
    · intro hrefuse
      cases htable : Dictionary.get? (Naming.moduleName name) holders with
      | none =>
        rw [planClasses_cons_free hlisted htable] at hrefuse
        rcases List.mem_cons.mp hrefuse with heq | hlater
        · cases heq
        · exact ih hrest hlater
      | some holder =>
        rw [planClasses_cons_taken hlisted htable] at hrefuse
        rcases List.mem_cons.mp hrefuse with heq | hlater
        · cases heq
        · exact ih hrest hlater
    · obtain ⟨name, hname⟩ := hnamed _ List.mem_cons_self hlisted
      exact absurd hname (hkey name)

theorem refuse_not_mem_plan (globalModule : String) (globals : List Enum.Definition)
    (classes : Dictionary String (List Enum.Definition)) (key : Json) :
    .refuse key ∉ plan globalModule globals (byText classes) := by
  intro hrefuse
  rcases List.mem_append.mp hrefuse with hscope | hclass
  · split at hscope
    · cases hscope
    · cases List.mem_singleton.mp hscope
  · exact refuse_not_mem_planClasses (namedByTexts_byText classes) key hclass

end Emission

namespace Emitter

open Emission

variable {emitter : Emitter} {session : Session}

/-! ### Steps that fail -/

/-- A step that fails touches nothing but the log files. -/
theorem follows_carryOut_of_error {here : Location} (hstands : emitter.Stands session.tree here)
    {step : Step} (hplain : ∀ module ∈ modulesOf [step], '/' ∉ module.toList)
    {failure : Failure} (hfails : (emitter.carryOut session step).result = .error failure) :
    Session.Follows (fun _ => False) session (emitter.carryOut session step).session := by
  cases step with
  | write module owner definitions =>
    have hchild := hstands.childOf (hplain module (List.mem_singleton_self module))
    change (emitter.writeModule session module owner definitions).result = _ at hfails
    change Session.Follows _ session (emitter.writeModule session module owner definitions).session
    unfold writeModule at hfails ⊢
    cases htext : emitter.moduleText session.tree owner definitions with
    | error e => exact Session.Follows.refl session
    | ok text =>
      rw [htext] at hfails
      dsimp only at hfails ⊢
      cases hresult : (session.tree.write (emitter.modulePath module) text
          { dryRun := emitter.dryRun }).result with
      | error e =>
        -- the write has left the tree alone, so only its records are left
        rw [hchild.write_tree_of_error hresult, Session.withTree_self]
        exact (Session.follows_tell session _).trans (Session.follows_tell _ _)
      | ok written =>
        rw [hresult] at hfails
        cases hfails
  | passOver holder className module => cases hfails
  | refuse name => exact Session.Follows.refl session

/-- A row of steps that fails ends in the session of the step that fails. -/
theorem FailsAt.session_eq {steps front : List Step} {step : Step} {failure : Failure}
    (hfails : emitter.FailsAt session steps front step failure) :
    (emitter.carryOutAll session steps).session =
      (emitter.carryOut (emitter.carryOutAll session front).session step).session := by
  obtain ⟨⟨back, rfl⟩, ⟨paths, hfront⟩, hstep⟩ := hfails
  rw [List.append_assoc, List.singleton_append]
  induction front generalizing session paths with
  | nil =>
    change (emitter.carryOut session step).result = _ at hstep
    simp only [List.nil_append, carryOutAll, hstep]
  | cons first rest ih =>
    obtain ⟨one, others, hone, hothers, -, hsession⟩ := carryOutAll_cons_eq_ok hfront
    rw [hsession] at hstep ⊢
    rw [← ih hstep others hothers]
    simp only [List.cons_append, carryOutAll, hone]

theorem session_of_carryOutAll_error {globals : List Enum.Definition}
    {classes : Dictionary Json (List Enum.Definition)} {failure : Failure}
    (hprepare : (emitter.prepare session.tree).2 = .ok ())
    (hrun : (emitter.carryOutAll (emitter.prepared session)
      (plan emitter.settings.globalModule globals classes)).result = .error failure) :
    (emitter.writeModules session globals classes).session =
      (emitter.carryOutAll (emitter.prepared session)
        (plan emitter.settings.globalModule globals classes)).session := by
  unfold prepared at hrun ⊢
  unfold writeModules
  dsimp only
  rw [hprepare]
  dsimp only
  rw [hrun]

/-! ### Interrupted emissions -/

/-- The session in which the turn of an entry comes, after the entries before it. -/
def turnAfter (emitter : Emitter) (session : Session) (globals : List Enum.Definition)
    (classes : Dictionary String (List Enum.Definition)) : Session :=
  (emitter.carryOutAll (emitter.prepared session)
    (plan emitter.settings.globalModule globals (byText classes))).session

/-- How a session differs from the one before an emission when only some entries have been
    written, and the modules that were still to come have not. -/
structure CleanPrefix (emitter : Emitter) (before after : Session)
    (globals : List Enum.Definition) (classes : Dictionary String (List Enum.Definition))
    (missing : List String) (here : Location) : Prop where
  /-- The modules of these entries hold their texts. -/
  complete : ∀ module owner definitions,
    Claims emitter.settings.globalModule globals classes module owner definitions →
      ¬ before.LogsTo (placeOf here module) →
        ∃ text, emitter.RenderedInTurn (emitter.prepared before)
            (plan emitter.settings.globalModule globals (byText classes)) module owner
            definitions text ∧
          after.tree.HoldsText (emitter.modulePath module) (placeOf here module) text
  /-- The files of the other modules are those from before. -/
  untouched : ∀ module ∈ missing, ¬ before.LogsTo (placeOf here module) →
    FileTree.SameFile before.tree after.tree (placeOf here module)
  /-- Nothing is left beside the modules of these entries, but for directories on the way to them
      that were missing. -/
  others : FileTree.DiffersOnly (emitter.MayWrite before globals classes here)
    (FileTree.OnTheWay after.tree emitter.directory.parts) before.tree after.tree

/-- An emission stops at an entry, and leaves the tree of an emission of the entries before it. -/
structure Interruption (emitter : Emitter) (session : Session) (globals : List Enum.Definition)
    (classes : Dictionary String (List Enum.Definition)) (failure : Failure)
    (earlierGlobals : List Enum.Definition)
    (earlierClasses : Dictionary String (List Enum.Definition)) (module owner : String)
    (definitions : List Enum.Definition) (later : List String) (here : Location) : Prop where
  entry : EntryAt emitter.settings.globalModule globals classes earlierGlobals earlierClasses
    module owner definitions
  /-- The module of the entry cannot be rendered or written when its turn comes. -/
  fails : (emitter.writeModule (emitter.turnAfter session earlierGlobals earlierClasses) module
    owner definitions).result = .error failure
  /-- An emission of the entries before this one returns. -/
  returns : ∃ paths,
    (emitter.writeModules session earlierGlobals (byText earlierClasses)).result = .ok paths
  /-- The two emissions leave the same tree, but for the log files. -/
  tree : ∀ location, ¬ session.LogsTo location →
    (emitter.writeModules session globals (byText classes)).session.tree.node? location =
      (emitter.writeModules session earlierGlobals
        (byText earlierClasses)).session.tree.node? location
  /-- The modules of the entries before this one come first, then its own and the later ones. -/
  modules : claimedModules emitter.settings.globalModule globals classes =
    claimedModules emitter.settings.globalModule earlierGlobals earlierClasses ++ module :: later
  clean : emitter.CleanPrefix session
    (emitter.writeModules session globals (byText classes)).session earlierGlobals earlierClasses
    (module :: later) here

section

variable {globals : List Enum.Definition} {classes : Dictionary String (List Enum.Definition)}
  {here : Location} {paths : List Path}

/-- A session that has added no more than log lines since the last step of a plan. -/
theorem cleanPrefix_of_follows (hreal : emitter.dryRun = false)
    (hplain : ∀ module ∈ claimedModules emitter.settings.globalModule globals classes,
      '/' ∉ module.toList)
    (hstands : emitter.Stands (emitter.prepared session).tree here)
    (hrun : (emitter.carryOutAll (emitter.prepared session)
      (plan emitter.settings.globalModule globals (byText classes))).result = .ok paths)
    {after : Session}
    (hafter : Session.Follows (fun _ => False) (emitter.turnAfter session globals classes) after)
    {missing : List String}
    (hmissing : ∀ module ∈ missing,
      module ∉ claimedModules emitter.settings.globalModule globals classes) :
    emitter.CleanPrefix session after globals classes missing here := by
  obtain ⟨hdiffers, -, hlogs⟩ := differsOnly_carryOutAll hreal hplain hstands
    (List.append_nil _).symm
  have hothers : FileTree.DiffersOnly (emitter.MayWrite session globals classes here)
      (FileTree.OnTheWay after.tree emitter.directory.parts) session.tree after.tree := by
    have hway := hdiffers.mono (fun _ h => h) fun location hway =>
      FileTree.OnTheWay.of_keepsDirectories hafter.keeps hway
    apply hway.trans
    intro location hlocation
    left
    apply hafter.node location id
    intro hlog
    exact hlocation (Or.inl (hlogs location hlog))
  constructor
  · intro module owner definitions hclaims hlog
    have hsteps : ∀ module ∈
        modulesOf (plan emitter.settings.globalModule globals (byText classes)),
        '/' ∉ module.toList := by
      rw [modulesOf_plan]
      exact hplain
    obtain ⟨text, hturn, hholds⟩ := holdsText_of_write_mem hreal hstands hsteps
      (modulesOf_plan_nodup _ _ _) (fun h => hlog h.of_withTree) hrun
      (write_mem_plan_iff.mpr hclaims)
    refine ⟨text, hturn, hholds.of_keepsDirectories hafter.keeps ?_⟩
    apply hafter.node _ id
    intro hturnLog
    exact hlog (hlogs _ hturnLog)
  · intro module hmodule hlog
    apply hothers.file_iff
    rintro (hlogs' | ⟨other, hother, hplace⟩)
    · exact hlog hlogs'
    · rw [placeOf_injective here hplace] at hmodule
      exact hmissing other hmodule hother
  · exact hothers

end

/-- An emission that fails after its directory was made has come to an entry whose module cannot
    be rendered or written.  It leaves the tree of an emission of the entries before this one,
    which returns: their modules are complete, and the files of the other modules are those from
    before. -/
theorem interrupted_emission (emitter : Emitter) (session : Session)
    (globals : List Enum.Definition) (classes : Dictionary String (List Enum.Definition))
    (failure : Failure) (hreal : emitter.dryRun = false)
    (hglobal : '/' ∉ emitter.settings.globalModule.toList)
    (hclasses : ∀ entry ∈ classes, '/' ∉ entry.1.toList)
    (hcreatable : (emitter.prepare session.tree).2 = .ok ())
    (hfails : (emitter.writeModules session globals (byText classes)).result = .error failure) :
    ∃ earlierGlobals earlierClasses module owner definitions later here,
      emitter.Interruption session globals classes failure earlierGlobals earlierClasses module
        owner definitions later here := by
  have hplain := slash_not_mem_claimedModules globals hglobal
    fun entry hentry _ => hclasses entry hentry
  rcases writeModules_eq_error hfails with ⟨e, hprepare, -⟩ | ⟨-, hrun⟩
  · rw [hcreatable] at hprepare
    cases hprepare
  -- the directory of the modules stands before the first step
  have hprepared := hcreatable
  rw [prepare, hreal] at hprepared
  obtain ⟨here, hwalk, hdirectory⟩ := FileTree.walk_of_ensureDirectory hprepared
  have hstands : emitter.Stands (emitter.prepared session).tree here := by
    rw [prepared, prepare, hreal]
    exact ⟨hwalk, hdirectory⟩
  obtain ⟨front, step, hat⟩ := failsAt_of_carryOutAll hrun
  obtain ⟨back, hplan⟩ := hat.place
  rw [List.append_assoc, List.singleton_append] at hplan
  obtain ⟨paths, hfront⟩ := hat.before
  -- a step that fails is one that writes a module
  cases step with
  | passOver holder className module => cases hat.fails
  | refuse name =>
    have hmem : .refuse name ∈ plan emitter.settings.globalModule globals (byText classes) := by
      rw [← hplan]
      exact List.mem_append_right _ List.mem_cons_self
    exact absurd hmem (refuse_not_mem_plan _ _ _ _)
  | write module owner definitions =>
    obtain ⟨earlierGlobals, earlierClasses, hentry, rfl⟩ := plan_cut hplan.symm
    have hmodules : claimedModules emitter.settings.globalModule globals classes =
        claimedModules emitter.settings.globalModule earlierGlobals earlierClasses ++
          module :: modulesOf back := by
      rw [← modulesOf_plan, ← modulesOf_plan, ← hplan, modulesOf_append]
      rfl
    have honce := modulesOf_plan_nodup emitter.settings.globalModule globals (byText classes)
    rw [modulesOf_plan, hmodules] at honce
    rw [hmodules] at hplain
    -- the step is left with the session of its turn, but for log lines
    have hturn := follows_carryOutAll hstands _ fun other hother =>
      hplain other (List.mem_append_left _ (modulesOf_plan _ _ _ ▸ hother))
    have hmodule : '/' ∉ module.toList :=
      hplain module (List.mem_append_right _ List.mem_cons_self)
    have hstep : ∀ other ∈ modulesOf [.write module owner definitions], '/' ∉ other.toList := by
      intro other hother
      rw [List.mem_singleton.mp hother]
      exact hmodule
    have hafter :=
      follows_carryOut_of_error (hstands.of_keepsDirectories hturn.keeps) hstep hat.fails
    have hpartial := writeModules_of_carryOutAll hcreatable hfront
    obtain ⟨-, -, hreturned⟩ := writeModules_eq_ok hpartial
    have hsession := (session_of_carryOutAll_error hcreatable hrun).trans hat.session_eq
    refine ⟨earlierGlobals, earlierClasses, module, owner, definitions, modulesOf back, here,
      hentry, hat.fails, ⟨paths, hpartial⟩, ?_, hmodules, ?_⟩
    · intro location hlog
      have hturnLog : ¬ (emitter.turnAfter session earlierGlobals earlierClasses).LogsTo
          location := fun h => hlog (hturn.logsTo location h).of_withTree
      rw [hsession, hreturned, hafter.node location id hturnLog]
      exact (Session.node?_tell _ hturnLog).symm
    · rw [hsession]
      apply cleanPrefix_of_follows hreal _ hstands hfront hafter
      · intro other hother hclaimed
        exact (List.nodup_append.mp honce).2.2 other hclaimed other hother rfl
      · intro other hother
        exact hplain other (List.mem_append_left _ hother)

def blockedSession : Session :=
  { smallSession with
    tree := ⟨smallSession.tree.nodes ++
      [(["gen"], .directory), (["gen", "node.rs"], .directory)]⟩ }

theorem blocked_emission_fails :
    ∃ failure, (smallEmitter.writeModules blockedSession [emptyEnum] (byText namesakes)).result =
      .error failure := by
  have hnone : (smallEmitter.writeModules blockedSession [emptyEnum]
      (byText namesakes)).result.toOption = none := by decide +kernel
  cases hresult : (smallEmitter.writeModules blockedSession [emptyEnum]
      (byText namesakes)).result with
  | error failure => exact ⟨failure, rfl⟩
  | ok paths =>
    rw [hresult] at hnone
    cases hnone

/-- The module of the global scope was written before the emission came to the directory. -/
theorem small_emission_interrupted :
    ∃ failure,
      (smallEmitter.writeModules blockedSession [emptyEnum] (byText namesakes)).result =
          .error failure ∧
        ∃ earlierGlobals earlierClasses module owner definitions later here,
          smallEmitter.Interruption blockedSession [emptyEnum] namesakes failure
            earlierGlobals earlierClasses module owner definitions later here := by
  obtain ⟨failure, hfails⟩ := blocked_emission_fails
  have hcreatable : (smallEmitter.prepare blockedSession.tree).2 = .ok () := by rfl
  exact ⟨failure, hfails, interrupted_emission smallEmitter blockedSession [emptyEnum] namesakes
    failure rfl (by decide) (by decide) hcreatable hfails⟩

end Emitter

end EngineBindings
