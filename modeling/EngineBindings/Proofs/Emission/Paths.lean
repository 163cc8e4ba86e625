/-
  EngineBindings/Proofs/Emission/Paths.lean
  =========================================
  **Which modules share a file.**

  No module is written twice, but modules are told apart by their names and files by their
  paths, and a name with a slash is read as a path.  The part of the name up to its last slash
  leads to a directory, the part after it names the file (`parent_modulePath`,
  `modulePath_eq`).  So the files of an emission are different children of its directory
  exactly when every name leads back to the directory and the names of the files differ
  (`paths_distinct_iff`); names without a slash are always of this kind.

  Nothing keeps a class from having a slash in its name: one called `./Global` writes the file
  of the global scope (`global_module_overwritten`).
-/
import EngineBindings.Proofs.Emission.Run
import Mathlib.Data.List.Nodup

namespace EngineBindings.Emitter

open Emission

variable {emitter : Emitter} {paths : List Path}

/-- The file of a module in the directory that its name leads to. -/
theorem modulePath_eq (emitter : Emitter) (module : String) :
    emitter.modulePath module =
      ⟨(emitter.directory.join (Path.wayOf module)).slashes,
        (emitter.directory.join (Path.wayOf module)).parts ++ [Path.lastName module ++ ".rs"]⟩ := by
  have hsplit : module ++ ".rs" = Path.wayOf module ++ (Path.lastName module ++ ".rs") := by
    rw [← String.append_assoc, Path.wayOf_append_lastName]
  rw [modulePath, hsplit]
  exact emitter.directory.join_append_name (Path.wayOf_cases module)
    (slash_not_mem_fileName (Path.slash_not_mem_lastName module))
    (fileName_ne _ (by decide)) (fileName_ne _ (by decide))

theorem parent_modulePath (emitter : Emitter) (module : String) :
    (emitter.modulePath module).parent = emitter.directory.join (Path.wayOf module) := by
  rw [modulePath_eq, Path.parent, List.dropLast_concat]

/-- Files whose names lead to the directory of the modules differ as their last names do. -/
theorem nodup_modulePaths_iff {modules : List String}
    (hways : ∀ module ∈ modules,
      emitter.directory.join (Path.wayOf module) = emitter.directory) :
    (modules.map emitter.modulePath).Nodup ↔ (modules.map Path.lastName).Nodup := by
  have hchild : modules.map emitter.modulePath = (modules.map Path.lastName).map fun name =>
      ⟨emitter.directory.slashes, emitter.directory.parts ++ [name ++ ".rs"]⟩ := by
    rw [List.map_map]
    refine List.map_congr_left fun module hmodule => ?_
    rw [modulePath_eq, hways module hmodule]
    rfl
  rw [hchild]
  refine List.nodup_map_iff fun name name' hpath => ?_
  have hfile : name ++ ".rs" = name' ++ ".rs" := by
    simpa using congrArg Path.parts hpath
  exact String.append_left_inj _ |>.mp hfile

theorem wayOf_lastName_of_no_slash (emitter : Emitter) {module : String}
    (hplain : '/' ∉ module.toList) :
    emitter.directory.join (Path.wayOf module) = emitter.directory ∧
      Path.lastName module = module := by
  rw [Path.wayOf_of_no_slash hplain, Path.join_empty]
  exact ⟨rfl, Path.lastName_of_no_slash hplain⟩

/-- The files that an emission returns are different children of its directory exactly when
    every name leads to the directory and the names of the files differ; so they are when no
    name has a slash. -/
theorem paths_distinct_iff (emitter : Emitter) (session : Session)
    (globals : List Enum.Definition) (classes : Dictionary String (List Enum.Definition))
    (hok : (emitter.writeModules session globals (byText classes)).result = .ok paths) :
    ((paths.Nodup ∧ ∀ path ∈ paths, path.parent = emitter.directory) ↔
      (∀ module ∈ claimedModules emitter.settings.globalModule globals classes,
          emitter.directory.join (Path.wayOf module) = emitter.directory) ∧
        ((claimedModules emitter.settings.globalModule globals classes).map
          Path.lastName).Nodup) ∧
      ('/' ∉ emitter.settings.globalModule.toList →
        (∀ entry ∈ classes, entry.2 ≠ [] → '/' ∉ entry.1.toList) →
          paths.Nodup ∧ ∀ path ∈ paths, path.parent = emitter.directory) := by
  obtain ⟨-, hrun, -⟩ := writeModules_eq_ok hok
  have hpaths := paths_of_carryOutAll hrun
  rw [modulesOf_plan] at hpaths
  have hiff : (paths.Nodup ∧ ∀ path ∈ paths, path.parent = emitter.directory) ↔
      (∀ module ∈ claimedModules emitter.settings.globalModule globals classes,
          emitter.directory.join (Path.wayOf module) = emitter.directory) ∧
        ((claimedModules emitter.settings.globalModule globals classes).map
          Path.lastName).Nodup := by
    rw [hpaths, List.forall_mem_map, and_comm]
    simp only [parent_modulePath]
    exact and_congr_right nodup_modulePaths_iff
  refine ⟨hiff, fun hglobal hclasses => hiff.mpr ?_⟩
  have hplain := slash_not_mem_claimedModules globals hglobal hclasses
  refine ⟨fun module hmodule => (wayOf_lastName_of_no_slash emitter (hplain module hmodule)).1, ?_⟩
  have hnames : (claimedModules emitter.settings.globalModule globals classes).map
      Path.lastName = claimedModules emitter.settings.globalModule globals classes := by
    refine (List.map_congr_left fun module hmodule => ?_).trans (List.map_id _)
    exact (wayOf_lastName_of_no_slash emitter (hplain module hmodule)).2
  rw [hnames, ← modulesOf_plan]
  exact modulesOf_plan_nodup _ _ _

/-- Classes without a slash in their names keep to the directory and apart from each other. -/
theorem paths_distinct_of_small_emission :
    '/' ∉ smallEmitter.settings.globalModule.toList ∧
      (∀ entry ∈ namesakes, entry.2 ≠ [] → '/' ∉ entry.1.toList) ∧
      smallPaths.Nodup ∧ ∀ path ∈ smallPaths, path.parent = smallEmitter.directory :=
  ⟨by decide, by decide, (paths_distinct_iff smallEmitter smallSession [emptyEnum] namesakes
    small_emission_returns).2 (by decide) (by decide)⟩

/-- A class called after the file of the global scope writes that file. -/
theorem global_module_overwritten :
    '/' ∉ smallEmitter.settings.globalModule.toList ∧
      ∃ paths, (smallEmitter.writeModules smallSession [emptyEnum]
          (byText [("./Global", [emptyEnum])])).result = .ok paths ∧ ¬ paths.Nodup ∧
        (smallEmitter.writeModules smallSession [emptyEnum]
          (byText [("./Global", [emptyEnum])])).session.tree.node? ["gen", "global.rs"] =
            some (.file "./Global".toUTF8 0o644) := by
  refine ⟨by decide, [⟨1, ["gen", "global.rs"]⟩, ⟨1, ["gen", "global.rs"]⟩],
    result_eq_ok (by decide +kernel), by decide, ?_⟩
  decide +kernel

end EngineBindings.Emitter
