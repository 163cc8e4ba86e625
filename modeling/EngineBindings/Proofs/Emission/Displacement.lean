/-
  EngineBindings/Proofs/Emission/Displacement.lean
  ================================================
  **Who loses a module to whom.**

  A class with enums either has its module written, or it is passed over because the module is
  taken.  It is taken by the global scope, or by an earlier class that has had it written; and
  since a module name keeps the letters of the class name, case and underscores apart, the two
  are namesakes (`displaced_by_namesake`).
-/
import EngineBindings.Proofs.Emission.Run

namespace EngineBindings.Emitter

open Emission

/-- The class that comes after some others has its module written, to a file that is
    returned. -/
structure Emits (emitter : Emitter) (globals : List Enum.Definition)
    (classes before : Dictionary Json (List Enum.Definition)) (paths : List Path) (name : String)
    (definitions : List Enum.Definition) : Prop where
  step : HasStepAfter emitter.settings.globalModule globals classes before
    (.write (Naming.moduleName name) name definitions)
  path : emitter.modulePath (Naming.moduleName name) ∈ paths

/-- The class that comes after some others is passed over for a holder of its module, and the
    log is told so. -/
structure PassesOver (emitter : Emitter) (globals : List Enum.Definition)
    (classes before : Dictionary Json (List Enum.Definition)) (told : List Log.Record)
    (holder name : String) : Prop where
  step : HasStepAfter emitter.settings.globalModule globals classes before
    (.passOver holder name (Naming.moduleName name))
  told : passedOver holder name (Naming.moduleName name) ∈ told

section

variable {emitter : Emitter} {session : Session} {globals : List Enum.Definition}
  {classes before : Dictionary Json (List Enum.Definition)} {paths : List Path}

theorem namedByTexts_of_writeModules
    (hok : (emitter.writeModules session globals classes).result = .ok paths) :
    NamedByTexts classes := by
  obtain ⟨-, hrun, -⟩ := writeModules_eq_ok hok
  have hrefuse : ∀ key, .refuse key ∉
      planClasses [(emitter.settings.globalModule, globalOwner)] classes := fun key hrefuse =>
    refuse_not_mem_of_carryOutAll hrun key (List.mem_append_right _ hrefuse)
  exact namedByTexts_of_planClasses hrefuse

theorem Emits.of_hasStepAfter {name : String} {definitions : List Enum.Definition}
    (hok : (emitter.writeModules session globals classes).result = .ok paths)
    (hstep : HasStepAfter emitter.settings.globalModule globals classes before
      (.write (Naming.moduleName name) name definitions)) :
    emitter.Emits globals classes before paths name definitions := by
  refine ⟨hstep, ?_⟩
  obtain ⟨-, hrun, -⟩ := writeModules_eq_ok hok
  rw [paths_of_carryOutAll hrun]
  exact List.mem_map_of_mem (mem_modulesOf_iff.mpr ⟨name, definitions, hstep.mem_plan⟩)

theorem PassesOver.of_hasStepAfter {holder name : String}
    (hok : (emitter.writeModules session globals classes).result = .ok paths)
    (hstep : HasStepAfter emitter.settings.globalModule globals classes before
      (.passOver holder name (Naming.moduleName name))) :
    emitter.PassesOver globals classes before
      (emitter.writeModules session globals classes).session.told holder name := by
  refine ⟨hstep, ?_⟩
  obtain ⟨-, hrun, hsession⟩ := writeModules_eq_ok hok
  rw [hsession, Session.told_tell]
  exact List.mem_append_left _ (passedOver_mem_told hrun hstep.mem_plan)

end

/-- A class has its module written, or it is passed over: then its name agrees, up to
    underscores and case, with the module of the global scope or with the name of an earlier
    class that has its module written. -/
theorem displaced_by_namesake (emitter : Emitter) (session : Session)
    (globals : List Enum.Definition) (classes before after : Dictionary Json (List Enum.Definition))
    (paths : List Path) (name : String) (definitions : List Enum.Definition)
    (hclasses : classes = before ++ (.string name, definitions) :: after)
    (hlisted : definitions ≠ [])
    (hok : (emitter.writeModules session globals classes).result = .ok paths) :
    emitter.Emits globals classes before paths name definitions ∨
    ∃ holder, emitter.PassesOver globals classes before
        (emitter.writeModules session globals classes).session.told holder name ∧
      (Naming.canonical name.toList = emitter.settings.globalModule.toList.filter (· ≠ '_') ∨
        ∃ earlier others later, before = earlier ++ (.string holder, others) :: later ∧
          emitter.Emits globals classes earlier paths holder others ∧
          Naming.canonical holder.toList = Naming.canonical name.toList) := by
  have hnamed : NamedByTexts before := by
    intro entry hentry
    refine namedByTexts_of_writeModules hok entry ?_
    rw [hclasses]
    exact List.mem_append_left _ hentry
  cases htable : Dictionary.get? (Naming.moduleName name)
      (tableAfter emitter.settings.globalModule before) with
  | none =>
    have hstep := hasStepAfter_write globals after hnamed hlisted htable
    rw [← hclasses] at hstep
    exact Or.inl (.of_hasStepAfter hok hstep)
  | some holder =>
    have hstep := hasStepAfter_passOver globals after hnamed hlisted htable
    rw [← hclasses] at hstep
    refine Or.inr ⟨holder, .of_hasStepAfter hok hstep, ?_⟩
    rcases holder_cases globals htable with
      hglobal | ⟨earlier, others, later, hbefore, hmodule, hearlier⟩
    · left
      rw [← Naming.moduleChars_filter, ← hglobal]
      simp [Naming.moduleName]
    · have hwhole := hearlier.append_cons hnamed (.string name, definitions) after
      rw [← hclasses, hmodule] at hwhole
      exact Or.inr ⟨earlier, others, later, hbefore, .of_hasStepAfter hok hwhole,
        Naming.canonical_eq_of_moduleName_eq hmodule.symm⟩

/-- Of two namesakes the second is passed over. -/
theorem displaced_in_small_emission :
    byText namesakes =
        [(.string "Tree", []), (.string "Node", [emptyEnum])] ++
          (.string "node", [emptyEnum]) :: [] ∧
      (smallEmitter.Emits [emptyEnum] (byText namesakes)
          [(.string "Tree", []), (.string "Node", [emptyEnum])] smallPaths "node" [emptyEnum] ∨
        ∃ holder, smallEmitter.PassesOver [emptyEnum] (byText namesakes)
            [(.string "Tree", []), (.string "Node", [emptyEnum])]
            (smallEmitter.writeModules smallSession [emptyEnum] (byText namesakes)).session.told
            holder "node" ∧
          (Naming.canonical "node".toList =
              smallEmitter.settings.globalModule.toList.filter (· ≠ '_') ∨
            ∃ earlier others later,
              [(.string "Tree", []), (.string "Node", [emptyEnum])] =
                earlier ++ (.string holder, others) :: later ∧
              smallEmitter.Emits [emptyEnum] (byText namesakes) earlier smallPaths holder others ∧
              Naming.canonical holder.toList = Naming.canonical "node".toList)) :=
  ⟨rfl, displaced_by_namesake smallEmitter smallSession [emptyEnum] _
    [(.string "Tree", []), (.string "Node", [emptyEnum])] [] _ "node" [emptyEnum] rfl
    (List.cons_ne_nil _ _) small_emission_returns⟩

end EngineBindings.Emitter
