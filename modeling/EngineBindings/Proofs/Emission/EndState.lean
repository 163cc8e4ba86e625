/-
  EngineBindings/Proofs/Emission/EndState.lean
  ============================================
  **What an emission leaves behind.**

  When no name has a slash in it, an emission that returns has written one file for each module
  that is claimed, in the directory of the modules, and changed nothing else: the other files
  are the ones that were there, and the only new directories are that of the modules and the
  missing ones above it (`endState_of_writeModules`).

  Two things share the tree with the modules.  A log file takes lines while the emission runs,
  so nothing is said of a module whose file is one.  The templates of the user are read when a
  module is rendered, so the text of a module is the one that is rendered in its turn; it is
  the one that would have been rendered before the emission as long as the emission does not
  write over the templates.
-/
import EngineBindings.Proofs.Emission.Run

namespace EngineBindings.Emitter

open Emission

/-- The places that an emission may write: its modules, and the log files. -/
def MayWrite (emitter : Emitter) (session : Session) (globals : List Enum.Definition)
    (classes : Dictionary String (List Enum.Definition)) (here location : Location) : Prop :=
  session.LogsTo location ∨
    ∃ module ∈ claimedModules emitter.settings.globalModule globals classes,
      location = placeOf here module

/-- The two templates are not among the places that an emission may write, in a tree where
    everything stands in a directory. -/
structure TemplatesApart (emitter : Emitter) (session : Session) (globals : List Enum.Definition)
    (classes : Dictionary String (List Enum.Definition)) (here : Location) : Prop where
  rooted : session.tree.Rooted
  apart : ∀ name ∈ [emitter.settings.enumTemplate, emitter.settings.moduleTemplate],
    emitter.templates.Apart session.tree (emitter.MayWrite session globals classes here) name

structure EndState (emitter : Emitter) (before after : Session) (globals : List Enum.Definition)
    (classes : Dictionary String (List Enum.Definition)) (here : Location) : Prop where
  /-- The directory of the modules is there. -/
  stands : emitter.Stands after.tree here
  /-- The file of each module is what was rendered for its claimant. -/
  written : ∀ module owner definitions,
    Claims emitter.settings.globalModule globals classes module owner definitions →
      ¬ before.LogsTo (placeOf here module) →
        ∃ text, emitter.RenderedInTurn (emitter.prepared before)
            (plan emitter.settings.globalModule globals (byText classes)) module owner
            definitions text ∧
          after.tree.HoldsText (emitter.modulePath module) (placeOf here module) text ∧
          (emitter.TemplatesApart before globals classes here →
            emitter.moduleText before.tree owner definitions = .ok text)
  /-- Everything else is as it was, apart from directories on the way to the modules that were
      missing. -/
  others : FileTree.DiffersOnly (emitter.MayWrite before globals classes here)
    (FileTree.OnTheWay after.tree emitter.directory.parts) before.tree after.tree

section

variable {emitter : Emitter} {session : Session} {globals : List Enum.Definition}
  {classes : Dictionary String (List Enum.Definition)} {here : Location} {paths : List Path}

/-- How the tree at any moment of an emission differs from the one before it. -/
theorem differsOnly_carryOutAll (hreal : emitter.dryRun = false)
    (hplain : ∀ module ∈ claimedModules emitter.settings.globalModule globals classes,
      '/' ∉ module.toList)
    (hstands : emitter.Stands (emitter.prepared session).tree here) {front back : List Step}
    (hplan : plan emitter.settings.globalModule globals (byText classes) = front ++ back) :
    let turn := (emitter.carryOutAll (emitter.prepared session) front).session
    FileTree.DiffersOnly (emitter.MayWrite session globals classes here)
        (FileTree.OnTheWay turn.tree emitter.directory.parts) session.tree turn.tree ∧
      FileTree.KeepsDirectories session.tree turn.tree ∧
      ∀ location, turn.LogsTo location → session.LogsTo location := by
  intro turn
  have hfront : ∀ module ∈ modulesOf front,
      module ∈ claimedModules emitter.settings.globalModule globals classes := by
    intro module hmodule
    rw [← modulesOf_plan, hplan, modulesOf_append]
    exact List.mem_append_left _ hmodule
  have hfollows := follows_carryOutAll hstands front fun module hmodule =>
    hplain module (hfront module hmodule)
  have hprepare : (emitter.prepared session).tree =
      (session.tree.ensureDirectory emitter.directory).1 := by
    rw [prepared, prepare, hreal]
    rfl
  have hmade : FileTree.DiffersOnly (fun _ => False)
      (FileTree.OnTheWay (emitter.prepared session).tree emitter.directory.parts) session.tree
        (emitter.prepared session).tree := by
    rw [hprepare]
    exact FileTree.ensureDirectory_differsOnly session.tree emitter.directory
  refine ⟨?_, hmade.keepsDirectories.trans hfollows.keeps,
    fun location hlogs => (hfollows.logsTo location hlogs).of_withTree⟩
  refine (hmade.mono (fun _ h => h.elim) fun location hway =>
    hway.of_keepsDirectories hfollows.keeps).trans fun location hlocation => Or.inl ?_
  refine hfollows.node location ?_ fun hlogs => hlocation (Or.inl hlogs.of_withTree)
  rintro ⟨module, hmodule, hplace⟩
  exact hlocation (Or.inr ⟨module, hfront module hmodule, hplace⟩)

/-- A module is rendered in its turn as it would have been before the emission. -/
theorem moduleText_of_renderedInTurn (hreal : emitter.dryRun = false)
    (hplain : ∀ module ∈ claimedModules emitter.settings.globalModule globals classes,
      '/' ∉ module.toList)
    (hstands : emitter.Stands (emitter.prepared session).tree here)
    {module owner text : String} {definitions : List Enum.Definition}
    (hturn : emitter.RenderedInTurn (emitter.prepared session)
      (plan emitter.settings.globalModule globals (byText classes)) module owner definitions text)
    (hapart : emitter.TemplatesApart session globals classes here) :
    emitter.moduleText session.tree owner definitions = .ok text := by
  obtain ⟨front, back, hplan, htext⟩ := hturn
  obtain ⟨hdiffers, hkeeps, -⟩ := differsOnly_carryOutAll hreal hplain hstands hplan
  rw [← htext]
  refine (moduleText_congr (fun name hname => ?_) owner definitions).symm
  exact Template.Library.source_eq_of_differsOnly hapart.rooted hkeeps hdiffers
    (hapart.apart name hname)

/-- An emission that returns has written the modules that are claimed, in order, and nothing
    else. -/
theorem endState_of_writeModules (emitter : Emitter) (session : Session)
    (globals : List Enum.Definition) (classes : Dictionary String (List Enum.Definition))
    (hreal : emitter.dryRun = false) (hglobal : '/' ∉ emitter.settings.globalModule.toList)
    (hclasses : ∀ entry ∈ classes, '/' ∉ entry.1.toList)
    (hok : (emitter.writeModules session globals (byText classes)).result = .ok paths) :
    paths = (claimedModules emitter.settings.globalModule globals classes).map
        emitter.modulePath ∧
      ∃ here, emitter.EndState session
        (emitter.writeModules session globals (byText classes)).session globals classes here := by
  obtain ⟨hprepared, hrun, hsession⟩ := writeModules_eq_ok hok
  have hplain := slash_not_mem_claimedModules globals hglobal
    fun entry hentry _ => hclasses entry hentry
  refine ⟨by rw [paths_of_carryOutAll hrun, modulesOf_plan], ?_⟩
  -- the directory of the modules stands before the first step
  rw [prepare, hreal] at hprepared
  obtain ⟨here, hwalk, hdirectory⟩ := FileTree.walk_of_ensureDirectory hprepared
  have hstands : emitter.Stands (emitter.prepared session).tree here := by
    rw [prepared, prepare, hreal]
    exact ⟨hwalk, hdirectory⟩
  obtain ⟨hdiffers, -, hlogs⟩ := differsOnly_carryOutAll hreal hplain hstands
    (List.append_nil _).symm
  have hsteps : ∀ module ∈
      modulesOf (plan emitter.settings.globalModule globals (byText classes)),
      '/' ∉ module.toList := by
    rw [modulesOf_plan]
    exact hplain
  have hkeeps := (follows_carryOutAll hstands _ hsteps).keeps
  refine ⟨here, ?_⟩
  rw [hsession]
  constructor
  · exact hstands.of_keepsDirectories (hkeeps.trans (Session.keepsDirectories_tell _ _))
  · intro module owner definitions hclaims hlog
    obtain ⟨text, hturn, hholds⟩ := holdsText_of_write_mem hreal hstands hsteps
      (modulesOf_plan_nodup _ _ _) (fun h => hlog h.of_withTree) hrun
      (write_mem_plan_iff.mpr hclaims)
    refine ⟨text, hturn, ?_, moduleText_of_renderedInTurn hreal hplain hstands hturn⟩
    exact hholds.of_keepsDirectories (Session.keepsDirectories_tell _ _)
      (Session.node?_tell _ fun h => hlog (hlogs _ h))
  · have hend := Session.keepsDirectories_tell
      (emitter.carryOutAll (emitter.prepared session)
        (plan emitter.settings.globalModule globals (byText classes))).session [emitter.complete]
    refine (hdiffers.mono (fun _ h => h) fun location hway =>
      hway.of_keepsDirectories hend).trans fun location hlocation => Or.inl ?_
    exact Session.node?_tell _ fun h => hlocation (Or.inl (hlogs location h))

/-- Of two classes with one module the first has it written, and one without enums has none. -/
theorem endState_of_small_emission :
    smallPaths = (claimedModules smallEmitter.settings.globalModule [emptyEnum] namesakes).map
        smallEmitter.modulePath ∧
      ∃ here, smallEmitter.EndState smallSession
        (smallEmitter.writeModules smallSession [emptyEnum] (byText namesakes)).session
        [emptyEnum] namesakes here :=
  endState_of_writeModules smallEmitter smallSession [emptyEnum] namesakes rfl (by decide)
    (by decide) small_emission_returns

end

end EngineBindings.Emitter
