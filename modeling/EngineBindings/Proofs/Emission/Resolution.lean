/-
  EngineBindings/Proofs/Emission/Resolution.lean
  ==============================================
  **Where a resolved enum is to be found.**

  The emitter decides about a module by a table, the resolver by the name of the owner alone.
  They agree on every owner whose module is written: it has the module that its name gives, and
  no other owner has it (`Wrote.path_eq`, `Wrote.owner_eq`).  The name of a class that was
  passed over resolves to the same module and to nothing of its own, so nothing is said here
  about such a class.

  With one module of the global scope on both sides, an enum therefore resolves to a module
  whose file is the one that was returned for its owner, and two enums never resolve to one
  type (`enums_resolve_to_their_files`).
-/
import EngineBindings.Proofs.Emission.Displacement
import EngineBindings.Proofs.RustType.Resolver

namespace EngineBindings.Emitter

open Emission

variable {emitter : Emitter} {session : Session} {globals : List Enum.Definition}
  {classes : Dictionary Json (List Enum.Definition)} {paths : List Path}

/-! ### Files that are returned for an owner -/

structure Returns (emitter : Emitter) (session : Session) (globals : List Enum.Definition)
    (classes : Dictionary Json (List Enum.Definition)) (front : List Step) (step : Step)
    (path : Path) : Prop where
  place : front ++ [step] <+: plan emitter.settings.globalModule globals classes
  result : (emitter.carryOut (emitter.carryOutAll (emitter.prepared session) front).session
    step).result = .ok [path]

/-- A file was returned for an owner with enums: at the start for the global scope, and for a
    class right after the steps for the classes before it. -/
inductive Wrote (emitter : Emitter) (session : Session) (globals : List Enum.Definition)
    (classes : Dictionary Json (List Enum.Definition)) :
    EnumOwner → List Enum.Definition → Path → Prop where
  | globalScope {module : String} {path : Path} (listed : globals ≠ [])
      (returns : emitter.Returns session globals classes [] (.write module globalOwner globals)
        path) :
      Wrote emitter session globals classes .globalScope globals path
  | ofClass {before after : Dictionary Json (List Enum.Definition)} {name module : String}
      {definitions : List Enum.Definition} {path : Path}
      (split : classes = before ++ (.string name, definitions) :: after)
      (listed : definitions ≠ [])
      (returns : emitter.Returns session globals classes
        (plan emitter.settings.globalModule globals before) (.write module name definitions)
        path) :
      Wrote emitter session globals classes (.ofClass name) definitions path

theorem Returns.path_eq {front : List Step} {module owner : String}
    {definitions : List Enum.Definition} {path : Path}
    (hreturns : emitter.Returns session globals classes front (.write module owner definitions)
      path) : path = emitter.modulePath module := by
  have hpaths := paths_of_carryOut hreturns.result
  exact (List.cons.inj hpaths).1

theorem Returns.mem_paths {front : List Step} {step : Step} {path : Path}
    (hreturns : emitter.Returns session globals classes front step path)
    (hok : (emitter.writeModules session globals classes).result = .ok paths) : path ∈ paths := by
  obtain ⟨-, hrun, -⟩ := writeModules_eq_ok hok
  obtain ⟨back, hplan⟩ := hreturns.place
  rw [← hplan, List.append_assoc] at hrun
  obtain ⟨first, others, -, hothers, rfl, -⟩ := carryOutAll_append_eq_ok hrun
  obtain ⟨found, rest, hfound, -, rfl, -⟩ := carryOutAll_cons_eq_ok hothers
  rw [hreturns.result] at hfound
  cases hfound
  exact List.mem_append_right _ (List.mem_append_left _ (List.mem_singleton_self path))

theorem Wrote.mem_paths {owner : EnumOwner} {definitions : List Enum.Definition} {path : Path}
    (hwrote : emitter.Wrote session globals classes owner definitions path)
    (hok : (emitter.writeModules session globals classes).result = .ok paths) : path ∈ paths := by
  cases hwrote with
  | globalScope hlisted hreturns => exact hreturns.mem_paths hok
  | ofClass hsplit hlisted hreturns => exact hreturns.mem_paths hok

/-! ### The module of an owner -/

section

variable {module globalModule : String} {owner owner' : EnumOwner}
  {definitions definitions' : List Enum.Definition} {path path' : Path}

/-- A class that has a module written has the one that its name gives, and it was free. -/
theorem module_of_write {before after : Dictionary Json (List Enum.Definition)} {name : String}
    (hnamed : NamedByTexts before) (hlisted : definitions ≠ [])
    (hplace : plan globalModule globals before ++ [.write module name definitions] <+:
      plan globalModule globals (before ++ (.string name, definitions) :: after)) :
    module = Naming.moduleName name ∧
      Dictionary.get? (Naming.moduleName name) (tableAfter globalModule before) = none := by
  rw [plan_append_cons hnamed, List.prefix_append_right_inj] at hplace
  cases htable : Dictionary.get? (Naming.moduleName name) (tableAfter globalModule before) with
  | none =>
    rw [planClasses_cons_free hlisted htable, List.cons_prefix_cons] at hplace
    cases hplace.1
    exact ⟨rfl, rfl⟩
  | some holder =>
    rw [planClasses_cons_taken hlisted htable, List.cons_prefix_cons] at hplace
    cases hplace.1

/-- A module that is free when the turn of a class comes is not the one of the global scope. -/
theorem ne_globalModule_of_free {before : Dictionary Json (List Enum.Definition)}
    (hfree : Dictionary.get? module (tableAfter globalModule before) = none) :
    module ≠ globalModule := by
  intro heq
  have hstart := (get?_holdersAfter_eq_none_iff.mp hfree).1
  rw [get?_globalTable, if_pos heq.symm] at hstart
  cases hstart

theorem namedByTexts_before {before after : Dictionary Json (List Enum.Definition)}
    {entry : Json × List Enum.Definition}
    (hok : (emitter.writeModules session globals classes).result = .ok paths)
    (hsplit : classes = before ++ entry :: after) : NamedByTexts before := by
  intro other hother
  refine namedByTexts_of_writeModules hok other ?_
  rw [hsplit]
  exact List.mem_append_left _ hother

theorem plan_of_globals (hlisted : globals ≠ []) :
    plan globalModule globals classes = .write globalModule globalOwner globals ::
      planClasses [(globalModule, globalOwner)] classes := by
  rw [plan, if_neg (by simpa using hlisted)]
  rfl

/-- The file of an owner is that of the module that its name gives, or the global scope's. -/
theorem Wrote.path_eq (hwrote : emitter.Wrote session globals classes owner definitions path)
    (hok : (emitter.writeModules session globals classes).result = .ok paths) :
    path = emitter.modulePath (owner.moduleOf emitter.settings.globalModule) := by
  cases hwrote with
  | globalScope hlisted hreturns =>
    have hplace := hreturns.place
    rw [plan_of_globals hlisted, List.nil_append, List.cons_prefix_cons] at hplace
    cases hplace.1
    exact hreturns.path_eq
  | ofClass hsplit hlisted hreturns =>
    have hplace := hreturns.place
    have hnamed := namedByTexts_before hok hsplit
    rw [hsplit] at hplace
    rw [hreturns.path_eq, (module_of_write hnamed hlisted hplace).1]
    rfl

theorem Wrote.of_class {name : String}
    (hwrote : emitter.Wrote session globals classes (.ofClass name) definitions path)
    (hok : (emitter.writeModules session globals classes).result = .ok paths) :
    Naming.moduleName name ≠ emitter.settings.globalModule ∧
      .write (Naming.moduleName name) name definitions ∈
        plan emitter.settings.globalModule globals classes := by
  cases hwrote with
  | ofClass hsplit hlisted hreturns =>
    have hplace := hreturns.place
    have hstep := hplace.subset (List.mem_append_right _ (List.mem_singleton_self _))
    have hnamed := namedByTexts_before hok hsplit
    rw [hsplit] at hplace
    obtain ⟨rfl, hfree⟩ := module_of_write hnamed hlisted hplace
    exact ⟨ne_globalModule_of_free hfree, hstep⟩

/-- Of steps that write no module twice, no two write one module. -/
theorem write_eq_of_nodup {steps : List Step} {name name' : String}
    (honce : (modulesOf steps).Nodup) (hstep : .write module name definitions ∈ steps)
    (hstep' : .write module name' definitions' ∈ steps) :
    name = name' ∧ definitions = definitions' := by
  obtain ⟨before, after, rfl⟩ := List.append_of_mem hstep
  have hsplit : modulesOf (before ++ .write module name definitions :: after) =
      modulesOf before ++ module :: modulesOf after := modulesOf_append _ _
  rw [hsplit, List.perm_middle.nodup_iff, List.nodup_cons, List.mem_append, not_or] at honce
  obtain ⟨⟨hbefore, hafter⟩, -⟩ := honce
  rcases List.mem_append.mp hstep' with hmem | hmem
  · exact absurd (mem_modulesOf_iff.mpr ⟨name', definitions', hmem⟩) hbefore
  · rcases List.mem_cons.mp hmem with heq | hmem
    · cases heq
      exact ⟨rfl, rfl⟩
    · exact absurd (mem_modulesOf_iff.mpr ⟨name', definitions', hmem⟩) hafter

/-- No two owners have one module, if both have a file. -/
theorem Wrote.owner_eq (hwrote : emitter.Wrote session globals classes owner definitions path)
    (hwrote' : emitter.Wrote session globals classes owner' definitions' path')
    (hok : (emitter.writeModules session globals classes).result = .ok paths)
    (hmodule : owner.moduleOf emitter.settings.globalModule =
      owner'.moduleOf emitter.settings.globalModule) : owner = owner' := by
  cases owner with
  | globalScope =>
    cases owner' with
    | globalScope => rfl
    | ofClass name' => exact absurd hmodule.symm (hwrote'.of_class hok).1
  | ofClass name =>
    cases owner' with
    | globalScope => exact absurd hmodule (hwrote.of_class hok).1
    | ofClass name' =>
      -- the resolver would confuse two such classes; the table lets only one of them write
      have hmodule : Naming.moduleName name = Naming.moduleName name' := hmodule
      have hstep := (hwrote.of_class hok).2
      rw [hmodule] at hstep
      have honce := modulesOf_plan_nodup emitter.settings.globalModule globals classes
      rw [(write_eq_of_nodup honce hstep (hwrote'.of_class hok).2).1]

end

/-! ### Every file has an owner -/

theorem returns_of_plan {front others : List Step} {module owner : String}
    {definitions : List Enum.Definition}
    (hok : (emitter.writeModules session globals classes).result = .ok paths)
    (hplan : plan emitter.settings.globalModule globals classes =
      front ++ .write module owner definitions :: others) :
    emitter.Returns session globals classes front (.write module owner definitions)
      (emitter.modulePath module) := by
  obtain ⟨-, hrun, -⟩ := writeModules_eq_ok hok
  rw [hplan] at hrun
  obtain ⟨_, _, _, hback, _, _⟩ := carryOutAll_append_eq_ok hrun
  obtain ⟨found, _, hfound, _, _, _⟩ := carryOutAll_cons_eq_ok hback
  have hpaths : found = [emitter.modulePath module] := paths_of_carryOut hfound
  refine ⟨?_, hpaths ▸ hfound⟩
  rw [hplan]
  exact ⟨others, by simp⟩

/-- A file that is returned was returned for an owner. -/
theorem wrote_of_mem_paths {path : Path}
    (hok : (emitter.writeModules session globals classes).result = .ok paths)
    (hpath : path ∈ paths) :
    ∃ owner definitions, emitter.Wrote session globals classes owner definitions path := by
  obtain ⟨-, hrun, -⟩ := writeModules_eq_ok hok
  rw [paths_of_carryOutAll hrun] at hpath
  obtain ⟨module, hmodule, rfl⟩ := List.mem_map.mp hpath
  obtain ⟨owner, definitions, hstep⟩ := mem_modulesOf_iff.mp hmodule
  rcases List.mem_append.mp hstep with hglobal | hclass
  · by_cases hglobals : globals = []
    · subst hglobals
      cases hglobal
    · rw [if_neg (by simpa using hglobals)] at hglobal
      cases List.mem_singleton.mp hglobal
      exact ⟨.globalScope, _, .globalScope hglobals
        (returns_of_plan hok (plan_of_globals hglobals))⟩
  · obtain ⟨rfl, before, after, rfl, hlisted, hnamed, hfree⟩ := write_mem_planClasses hclass
    obtain ⟨others, hplan⟩ := hasStepAfter_write globals after hnamed hlisted hfree
    exact ⟨.ofClass owner, definitions, .ofClass rfl hlisted (returns_of_plan hok hplan)⟩

/-! ### Enums and their files -/

def HasFile (emitter : Emitter) (session : Session) (globals : List Enum.Definition)
    (classes : Dictionary Json (List Enum.Definition)) (owner : EnumOwner) (enum : String)
    (path : Path) : Prop :=
  ∃ definitions, emitter.Wrote session globals classes owner definitions path ∧
    ∃ definition ∈ definitions, definition.name = .string enum

/-- An enum of an emission resolves to the module whose file was returned for its owner, and two
    enums that differ in their owners or their names resolve to different types. -/
theorem enums_resolve_to_their_files (emitter : Emitter) (resolver : Resolver)
    (session : Session) (globals : List Enum.Definition)
    (classes : Dictionary Json (List Enum.Definition)) (paths : List Path)
    (hglobal : resolver.settings.globalModule = emitter.settings.globalModule)
    (hok : (emitter.writeModules session globals classes).result = .ok paths) :
    (∀ owner enum path raw, emitter.HasFile session globals classes owner enum path →
        resolver.Names raw owner enum →
        ∃ module, resolver.resolve raw = .enumIn module enum ∧
          path = emitter.modulePath module ∧ path ∈ paths) ∧
      ∀ owner enum path raw owner' enum' path' raw',
        emitter.HasFile session globals classes owner enum path →
        emitter.HasFile session globals classes owner' enum' path' →
        resolver.Names raw owner enum → resolver.Names raw' owner' enum' →
        owner ≠ owner' ∨ enum ≠ enum' → resolver.resolve raw ≠ resolver.resolve raw' := by
  constructor
  · intro owner enum path raw hfile hnames
    obtain ⟨definitions, hwrote, -⟩ := hfile
    refine ⟨owner.moduleOf emitter.settings.globalModule, ?_, hwrote.path_eq hok,
      hwrote.mem_paths hok⟩
    rw [Resolver.resolve_of_names hnames, hglobal]
  · intro owner enum path raw owner' enum' path' raw' hfile hfile' hnames hnames' hdiffer heq
    obtain ⟨definitions, hwrote, -⟩ := hfile
    obtain ⟨definitions', hwrote', -⟩ := hfile'
    rw [Resolver.resolve_of_names hnames, Resolver.resolve_of_names hnames', hglobal] at heq
    have hmodule : owner.moduleOf emitter.settings.globalModule =
        owner'.moduleOf emitter.settings.globalModule :=
      Option.some.inj (congrArg RustType.module heq)
    have henum : enum = enum' := congrArg RustType.name heq
    rcases hdiffer with howner | hname
    · exact howner (hwrote.owner_eq hwrote' hok hmodule)
    · exact hname henum

theorem small_emission_wrote_global :
    smallEmitter.Wrote smallSession [emptyEnum] (byText namesakes) .globalScope [emptyEnum]
      (smallEmitter.modulePath "global") := by
  have hlisted : [emptyEnum] ≠ [] := List.cons_ne_nil _ _
  exact .globalScope hlisted (returns_of_plan small_emission_returns (plan_of_globals hlisted))

theorem small_emission_wrote_class :
    smallEmitter.Wrote smallSession [emptyEnum] (byText namesakes) (.ofClass "Node") [emptyEnum]
      (smallEmitter.modulePath "node") := by
  have hsplit : byText namesakes = [(.string "Tree", [])] ++
      (.string "Node", [emptyEnum]) :: [(.string "node", [emptyEnum])] := rfl
  have hreturns : smallEmitter.Returns smallSession [emptyEnum] (byText namesakes)
      (plan "global" [emptyEnum] [(.string "Tree", [])]) (.write "node" "Node" [emptyEnum])
      (smallEmitter.modulePath "node") :=
    returns_of_plan small_emission_returns rfl
  exact .ofClass hsplit (List.cons_ne_nil _ _) hreturns

def bareResolver : Resolver :=
  { knows := fun _ => false }

/-- An enum of the global scope and one of a class, both called `E`, resolve to two types. -/
theorem enums_of_small_emission_resolved :
    (∃ module, bareResolver.resolve "bitfield::Node.E" = .enumIn module "E" ∧
      (⟨1, ["gen", "node.rs"]⟩ : Path) = smallEmitter.modulePath module ∧
      ⟨1, ["gen", "node.rs"]⟩ ∈ smallPaths) ∧
      bareResolver.resolve "enum::E" ≠ bareResolver.resolve "bitfield::Node.E" := by
  have hglobal : smallEmitter.HasFile smallSession [emptyEnum] (byText namesakes) .globalScope
      "E" (smallEmitter.modulePath "global") :=
    ⟨[emptyEnum], small_emission_wrote_global, emptyEnum, List.mem_singleton_self _, rfl⟩
  have hclass : smallEmitter.HasFile smallSession [emptyEnum] (byText namesakes)
      (.ofClass "Node") "E" (smallEmitter.modulePath "node") :=
    ⟨[emptyEnum], small_emission_wrote_class, emptyEnum, List.mem_singleton_self _, rfl⟩
  have hpath : smallEmitter.modulePath "node" = ⟨1, ["gen", "node.rs"]⟩ := by decide
  have hagree := enums_resolve_to_their_files smallEmitter bareResolver smallSession [emptyEnum]
    (byText namesakes) smallPaths rfl small_emission_returns
  refine ⟨hpath ▸ hagree.1 _ _ _ _ hclass ⟨Or.inr rfl, by decide, rfl⟩, ?_⟩
  exact hagree.2 _ _ _ _ _ _ _ _ hglobal hclass ⟨Or.inl rfl, by decide, rfl⟩
    ⟨Or.inr rfl, by decide, rfl⟩ (Or.inl (by decide))

end EngineBindings.Emitter
