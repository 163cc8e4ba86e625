/-
  EngineBindings/Proofs/Emission/Plan.lean
  ========================================
  **Who holds which module.**

  A plan walks over the classes with a table of the modules that are taken.  What the table
  holds at any point can be read off the steps so far: the module that was taken from the
  start, and those that a step writes (`get?_holdersAfter_eq_none_iff`).  So a plan may be cut
  at any class (`plan_append_cons`), the step of a class depends on the classes before it
  alone, and no module is written twice (`modulesOf_plan_nodup`).

  For classes that are all named by texts the plan has a closed form: the modules are those of
  the classes with enums, without the module of the global scope and without repetitions, in
  the order in which they first come (`modulesOf_plan`), and each goes to the first class that
  claims it (`write_mem_plan_iff`).
-/
import EngineBindings.Emission.Plan
import EngineBindings.Proofs.Dictionary
import EngineBindings.Proofs.Naming.Canonical

namespace EngineBindings.Emission

/-! ### One entry -/

def NamedByTexts (classes : List (Json × List Enum.Definition)) : Prop :=
  ∀ entry ∈ classes, entry.2 ≠ [] → ∃ name, entry.1 = .string name

theorem NamedByTexts.cons {entry : Json × List Enum.Definition}
    {classes : List (Json × List Enum.Definition)}
    (hentry : entry.2 ≠ [] → ∃ name, entry.1 = .string name) (hclasses : NamedByTexts classes) :
    NamedByTexts (entry :: classes) := by
  intro other hother
  rcases List.mem_cons.mp hother with rfl | hother
  · exact hentry
  · exact hclasses other hother

section

variable {holders : Dictionary String String} {definitions : List Enum.Definition}
  {rest : List (Json × List Enum.Definition)}

theorem planClasses_cons_empty (key : Json) :
    planClasses holders ((key, []) :: rest) = planClasses holders rest := by
  cases key <;> rfl

theorem planClasses_cons_free {name : String} (hlisted : definitions ≠ [])
    (hfree : Dictionary.get? (Naming.moduleName name) holders = none) :
    planClasses holders ((.string name, definitions) :: rest) =
      .write (Naming.moduleName name) name definitions ::
        planClasses (Dictionary.insert (Naming.moduleName name) name holders) rest := by
  cases definitions with
  | nil => exact absurd rfl hlisted
  | cons d ds => simp only [planClasses, hfree]

theorem planClasses_cons_taken {name holder : String} (hlisted : definitions ≠ [])
    (htaken : Dictionary.get? (Naming.moduleName name) holders = some holder) :
    planClasses holders ((.string name, definitions) :: rest) =
      .passOver holder name (Naming.moduleName name) :: planClasses holders rest := by
  cases definitions with
  | nil => exact absurd rfl hlisted
  | cons d ds => simp only [planClasses, htaken]

theorem planClasses_cons_refuse {key : Json} (hlisted : definitions ≠ [])
    (hkey : ∀ name, key ≠ .string name) :
    planClasses holders ((key, definitions) :: rest) = [.refuse key] := by
  cases definitions with
  | nil => exact absurd rfl hlisted
  | cons d ds =>
    cases key with
    | string name => exact absurd rfl (hkey name)
    | _ => rfl

end

/-- The kinds of entries: a class without enums, one named by a text, and one that is not. -/
theorem entry_cases (entry : Json × List Enum.Definition) :
    (∃ key, entry = (key, [])) ∨
      (∃ name definitions, entry = (.string name, definitions) ∧ definitions ≠ []) ∨
      (∃ key definitions, entry = (key, definitions) ∧ definitions ≠ [] ∧
        ∀ name, key ≠ .string name) := by
  obtain ⟨key, definitions⟩ := entry
  by_cases hlisted : definitions = []
  · exact Or.inl ⟨key, by rw [hlisted]⟩
  · by_cases htext : ∃ name, key = .string name
    · obtain ⟨name, hname⟩ := htext
      exact Or.inr (Or.inl ⟨name, definitions, by rw [hname], hlisted⟩)
    · exact Or.inr (Or.inr ⟨key, definitions, rfl, hlisted, fun name h => htext ⟨name, h⟩⟩)

/-! ### The table of holders -/

def holdersAfter (holders : Dictionary String String) : List Step → Dictionary String String
  | [] => holders
  | .write module owner _ :: rest => holdersAfter (Dictionary.insert module owner holders) rest
  | .passOver _ _ _ :: rest => holdersAfter holders rest
  | .refuse _ :: rest => holdersAfter holders rest

theorem modulesOf_append (front back : List Step) :
    modulesOf (front ++ back) = modulesOf front ++ modulesOf back :=
  List.filterMap_append

theorem mem_modulesOf_iff {module : String} {steps : List Step} :
    module ∈ modulesOf steps ↔ ∃ owner definitions, .write module owner definitions ∈ steps := by
  simp only [modulesOf, List.mem_filterMap]
  constructor
  · rintro ⟨step, hstep, hmodule⟩
    cases step with
    | write module' owner definitions =>
      cases hmodule
      exact ⟨owner, definitions, hstep⟩
    | passOver holder className module' => cases hmodule
    | refuse name => cases hmodule
  · rintro ⟨owner, definitions, hstep⟩
    exact ⟨_, hstep, rfl⟩

/-- A module is free after a row of steps if it was free before and no step writes it. -/
theorem get?_holdersAfter_eq_none_iff {module : String} {holders : Dictionary String String}
    {steps : List Step} :
    Dictionary.get? module (holdersAfter holders steps) = none ↔
      Dictionary.get? module holders = none ∧ module ∉ modulesOf steps := by
  induction steps generalizing holders with
  | nil => simp [holdersAfter, modulesOf]
  | cons step rest ih =>
    cases step with
    | write module' owner definitions =>
      have hmodules : modulesOf (.write module' owner definitions :: rest) =
          module' :: modulesOf rest := rfl
      rw [holdersAfter, ih, Dictionary.get?_insert_eq_none_iff, hmodules, List.mem_cons, not_or,
        and_assoc]
    | passOver holder className module' => exact ih
    | refuse name => exact ih

/-- Who holds a module after a row of steps held it before, or has it written by a step. -/
theorem holder_of_get?_holdersAfter {module holder : String}
    {holders : Dictionary String String} {steps : List Step}
    (hholder : Dictionary.get? module (holdersAfter holders steps) = some holder) :
    Dictionary.get? module holders = some holder ∨
      ∃ definitions, .write module holder definitions ∈ steps := by
  induction steps generalizing holders with
  | nil => exact Or.inl hholder
  | cons step rest ih =>
    have hrest : ∀ {table : Dictionary String String},
        Dictionary.get? module (holdersAfter table rest) = some holder →
          Dictionary.get? module table = some holder ∨
            ∃ definitions, .write module holder definitions ∈ step :: rest := by
      intro table htable
      rcases ih htable with hbefore | ⟨definitions, hwritten⟩
      · exact Or.inl hbefore
      · exact Or.inr ⟨definitions, List.mem_cons_of_mem _ hwritten⟩
    cases step with
    | write module' owner definitions =>
      rcases hrest hholder with hbefore | hwritten
      · by_cases h : module' = module
        · subst h
          rw [Dictionary.get?_insert_self] at hbefore
          cases hbefore
          exact Or.inr ⟨definitions, List.mem_cons_self⟩
        · rw [Dictionary.get?_insert_of_ne h] at hbefore
          exact Or.inl hbefore
      · exact Or.inr hwritten
    | passOver _ _ _ => exact hrest hholder
    | refuse _ => exact hrest hholder

/-! ### Cutting a plan -/

/-- The steps for classes that come after others begin with the table that the others left. -/
theorem planClasses_append {holders : Dictionary String String}
    {before : List (Json × List Enum.Definition)} (hnamed : NamedByTexts before)
    (after : List (Json × List Enum.Definition)) :
    planClasses holders (before ++ after) = planClasses holders before ++
      planClasses (holdersAfter holders (planClasses holders before)) after := by
  induction before generalizing holders with
  | nil => rfl
  | cons entry rest ih =>
    have hrest : NamedByTexts rest := fun e he => hnamed e (List.mem_cons_of_mem _ he)
    rw [List.cons_append]
    rcases entry_cases entry with ⟨key, rfl⟩ | ⟨name, definitions, rfl, hlisted⟩ |
      ⟨key, definitions, rfl, hlisted, hkey⟩
    · rw [planClasses_cons_empty, planClasses_cons_empty, ih hrest]
    · cases htable : Dictionary.get? (Naming.moduleName name) holders with
      | none =>
        rw [planClasses_cons_free hlisted htable, planClasses_cons_free hlisted htable, ih hrest]
        rfl
      | some holder =>
        rw [planClasses_cons_taken hlisted htable, planClasses_cons_taken hlisted htable,
          ih hrest]
        rfl
    · obtain ⟨name, hname⟩ := hnamed _ List.mem_cons_self hlisted
      exact absurd hname (hkey name)

theorem namedByTexts_of_planClasses {holders : Dictionary String String}
    {classes : List (Json × List Enum.Definition)}
    (hrefuse : ∀ key, .refuse key ∉ planClasses holders classes) : NamedByTexts classes := by
  induction classes generalizing holders with
  | nil => intro entry hentry; cases hentry
  | cons entry rest ih =>
    rcases entry_cases entry with ⟨key, rfl⟩ | ⟨name, definitions, rfl, hlisted⟩ |
      ⟨key, definitions, rfl, hlisted, hkey⟩
    · rw [planClasses_cons_empty] at hrefuse
      exact (ih hrefuse).cons fun hne => absurd rfl hne
    · refine NamedByTexts.cons (fun _ => ⟨name, rfl⟩) ?_
      cases htable : Dictionary.get? (Naming.moduleName name) holders with
      | none =>
        rw [planClasses_cons_free hlisted htable] at hrefuse
        exact ih fun key h => hrefuse key (List.mem_cons_of_mem _ h)
      | some holder =>
        rw [planClasses_cons_taken hlisted htable] at hrefuse
        exact ih fun key h => hrefuse key (List.mem_cons_of_mem _ h)
    · rw [planClasses_cons_refuse hlisted hkey] at hrefuse
      exact absurd List.mem_cons_self (hrefuse key)

/-- A class with enums stands among the others, and its module is free when its turn comes. -/
def HasFreeTurn (holders : Dictionary String String)
    (classes : List (Json × List Enum.Definition)) (owner : String)
    (definitions : List Enum.Definition) : Prop :=
  ∃ before after, classes = before ++ (.string owner, definitions) :: after ∧
    definitions ≠ [] ∧ NamedByTexts before ∧
    Dictionary.get? (Naming.moduleName owner)
      (holdersAfter holders (planClasses holders before)) = none

/-- A class that comes before the others only matters by the table that it leaves. -/
theorem HasFreeTurn.cons {holders holders' : Dictionary String String}
    {entry : Json × List Enum.Definition} {rest : List (Json × List Enum.Definition)}
    {owner : String} {definitions : List Enum.Definition}
    (hentry : entry.2 ≠ [] → ∃ name, entry.1 = .string name)
    (htable : ∀ front, holdersAfter holders (planClasses holders (entry :: front)) =
      holdersAfter holders' (planClasses holders' front))
    (hturn : HasFreeTurn holders' rest owner definitions) :
    HasFreeTurn holders (entry :: rest) owner definitions := by
  obtain ⟨before, after, hrest, hlisted, hnamed, hfree⟩ := hturn
  refine ⟨entry :: before, after, ?_, hlisted, hnamed.cons hentry, ?_⟩
  · rw [hrest, List.cons_append]
  · rw [htable]
    exact hfree

/-- A step that writes a module is that of a class whose module is free when its turn comes. -/
theorem write_mem_planClasses {holders : Dictionary String String}
    {classes : List (Json × List Enum.Definition)} {module owner : String}
    {definitions : List Enum.Definition}
    (hwrite : .write module owner definitions ∈ planClasses holders classes) :
    module = Naming.moduleName owner ∧ HasFreeTurn holders classes owner definitions := by
  induction classes generalizing holders with
  | nil => cases hwrite
  | cons entry rest ih =>
    rcases entry_cases entry with ⟨key, rfl⟩ | ⟨name, ds, rfl, hlisted⟩ |
      ⟨key, ds, rfl, hlisted, hkey⟩
    · rw [planClasses_cons_empty] at hwrite
      obtain ⟨hmodule, hturn⟩ := ih hwrite
      refine ⟨hmodule, hturn.cons (fun hne => absurd rfl hne) fun front => ?_⟩
      rw [planClasses_cons_empty]
    · cases htable : Dictionary.get? (Naming.moduleName name) holders with
      | none =>
        rw [planClasses_cons_free hlisted htable] at hwrite
        rcases List.mem_cons.mp hwrite with heq | hwrite
        · cases heq
          exact ⟨rfl, [], rest, rfl, hlisted, nofun, htable⟩
        · obtain ⟨hmodule, hturn⟩ := ih hwrite
          refine ⟨hmodule, hturn.cons (fun _ => ⟨name, rfl⟩) fun front => ?_⟩
          rw [planClasses_cons_free hlisted htable]
          rfl
      | some holder =>
        rw [planClasses_cons_taken hlisted htable] at hwrite
        rcases List.mem_cons.mp hwrite with heq | hwrite
        · cases heq
        · obtain ⟨hmodule, hturn⟩ := ih hwrite
          refine ⟨hmodule, hturn.cons (fun _ => ⟨name, rfl⟩) fun front => ?_⟩
          rw [planClasses_cons_taken hlisted htable]
          rfl
    · rw [planClasses_cons_refuse hlisted hkey] at hwrite
      rcases List.mem_singleton.mp hwrite with heq
      cases heq

/-! ### Modules are written once -/

theorem modulesOf_planClasses_nodup (holders : Dictionary String String)
    (classes : List (Json × List Enum.Definition)) :
    (modulesOf (planClasses holders classes)).Nodup ∧
      ∀ module ∈ modulesOf (planClasses holders classes),
        Dictionary.get? module holders = none := by
  induction classes generalizing holders with
  | nil => exact ⟨List.nodup_nil, nofun⟩
  | cons entry rest ih =>
    rcases entry_cases entry with ⟨key, rfl⟩ | ⟨name, definitions, rfl, hlisted⟩ |
      ⟨key, definitions, rfl, hlisted, hkey⟩
    · rw [planClasses_cons_empty]
      exact ih holders
    · cases htable : Dictionary.get? (Naming.moduleName name) holders with
      | none =>
        rw [planClasses_cons_free hlisted htable]
        obtain ⟨hnodup, hfree⟩ :=
          ih (Dictionary.insert (Naming.moduleName name) name holders)
        have hfree' : ∀ module ∈ modulesOf (planClasses
            (Dictionary.insert (Naming.moduleName name) name holders) rest),
            Dictionary.get? module holders = none ∧ module ≠ Naming.moduleName name :=
          fun module hmodule => Dictionary.get?_insert_eq_none_iff.mp (hfree module hmodule)
        refine ⟨List.nodup_cons.mpr ⟨fun h => (hfree' _ h).2 rfl, hnodup⟩, ?_⟩
        intro module hmodule
        rcases List.mem_cons.mp hmodule with rfl | hmodule
        · exact htable
        · exact (hfree' module hmodule).1
      | some holder =>
        rw [planClasses_cons_taken hlisted htable]
        exact ih holders
    · rw [planClasses_cons_refuse hlisted hkey]
      exact ⟨List.nodup_nil, nofun⟩

theorem get?_globalTable (globalModule module : String) :
    Dictionary.get? module [(globalModule, globalOwner)] =
      if globalModule = module then some globalOwner else none := by
  by_cases h : globalModule = module <;> simp [Dictionary.get?, h]

/-- No two steps of a plan write one module. -/
theorem modulesOf_plan_nodup (globalModule : String) (globals : List Enum.Definition)
    (classes : Dictionary Json (List Enum.Definition)) :
    (modulesOf (plan globalModule globals classes)).Nodup := by
  obtain ⟨hnodup, hfree⟩ := modulesOf_planClasses_nodup [(globalModule, globalOwner)] classes
  unfold plan
  split
  · exact hnodup
  · rw [modulesOf_append]
    refine List.nodup_cons.mpr ⟨fun h => ?_, hnodup⟩
    have hnone := hfree globalModule h
    rw [get?_globalTable, if_pos rfl] at hnone
    cases hnone

/-! ### The step of a class -/

def tableAfter (globalModule : String) (before : List (Json × List Enum.Definition)) :
    Dictionary String String :=
  holdersAfter [(globalModule, globalOwner)] (planClasses [(globalModule, globalOwner)] before)

/-- A plan has this step right after the steps for the classes before one of its classes. -/
def HasStepAfter (globalModule : String) (globals : List Enum.Definition)
    (classes before : Dictionary Json (List Enum.Definition)) (step : Step) : Prop :=
  ∃ others, plan globalModule globals classes =
    plan globalModule globals before ++ step :: others

section

variable {globalModule : String} {globals : List Enum.Definition}
  {before after : List (Json × List Enum.Definition)} {name : String}
  {definitions : List Enum.Definition}

/-- A plan cut at one of its classes. -/
theorem plan_append_cons (hnamed : NamedByTexts before)
    (entry : Json × List Enum.Definition) :
    plan globalModule globals (before ++ entry :: after) = plan globalModule globals before ++
      planClasses (tableAfter globalModule before) (entry :: after) := by
  unfold plan tableAfter
  rw [planClasses_append hnamed, List.append_assoc]

theorem HasStepAfter.mem_plan {classes : Dictionary Json (List Enum.Definition)} {step : Step}
    (hstep : HasStepAfter globalModule globals classes before step) :
    step ∈ plan globalModule globals classes := by
  obtain ⟨others, hplan⟩ := hstep
  rw [hplan]
  exact List.mem_append_right _ List.mem_cons_self

/-- A step for one of the first classes is there whatever classes come after them. -/
theorem HasStepAfter.append_cons {earlier : Dictionary Json (List Enum.Definition)} {step : Step}
    (hstep : HasStepAfter globalModule globals before earlier step) (hnamed : NamedByTexts before)
    (entry : Json × List Enum.Definition) (after : List (Json × List Enum.Definition)) :
    HasStepAfter globalModule globals (before ++ entry :: after) earlier step := by
  obtain ⟨others, hplan⟩ := hstep
  refine ⟨others ++ planClasses (tableAfter globalModule before) (entry :: after), ?_⟩
  rw [plan_append_cons hnamed, hplan, List.append_assoc, List.cons_append]

theorem hasStepAfter_write (globals : List Enum.Definition)
    (after : List (Json × List Enum.Definition)) (hnamed : NamedByTexts before)
    (hlisted : definitions ≠ [])
    (hfree : Dictionary.get? (Naming.moduleName name) (tableAfter globalModule before) = none) :
    HasStepAfter globalModule globals (before ++ (.string name, definitions) :: after) before
      (.write (Naming.moduleName name) name definitions) :=
  ⟨_, by rw [plan_append_cons hnamed, planClasses_cons_free hlisted hfree]⟩

theorem hasStepAfter_passOver {holder : String} (globals : List Enum.Definition)
    (after : List (Json × List Enum.Definition)) (hnamed : NamedByTexts before)
    (hlisted : definitions ≠ [])
    (htaken : Dictionary.get? (Naming.moduleName name) (tableAfter globalModule before) =
      some holder) :
    HasStepAfter globalModule globals (before ++ (.string name, definitions) :: after) before
      (.passOver holder name (Naming.moduleName name)) :=
  ⟨_, by rw [plan_append_cons hnamed, planClasses_cons_taken hlisted htaken]⟩

/-- Who holds a module when the turn of a class comes: the global scope, or a class before it
    whose module it is and that has had it written. -/
theorem holder_cases {module holder : String} (globals : List Enum.Definition)
    (htaken : Dictionary.get? module (tableAfter globalModule before) = some holder) :
    module = globalModule ∨
      ∃ earlier definitions later, before = earlier ++ (.string holder, definitions) :: later ∧
        module = Naming.moduleName holder ∧
        HasStepAfter globalModule globals before earlier
          (.write module holder definitions) := by
  rcases holder_of_get?_holdersAfter htaken with hglobal | ⟨definitions, hwrite⟩
  · rw [get?_globalTable] at hglobal
    split at hglobal
    · rename_i heq
      exact Or.inl heq.symm
    · cases hglobal
  · obtain ⟨rfl, earlier, later, hbefore, hne, hearlier, hfree⟩ := write_mem_planClasses hwrite
    refine Or.inr ⟨earlier, definitions, later, hbefore, rfl, ?_⟩
    rw [hbefore]
    exact hasStepAfter_write globals later hearlier hne hfree

end

/-! ### Classes that are all named by texts -/

def byText (classes : Dictionary String (List Enum.Definition)) :
    Dictionary Json (List Enum.Definition) :=
  classes.map fun (name, definitions) => (.string name, definitions)

def classModules (classes : Dictionary String (List Enum.Definition)) : List String :=
  (classes.filter fun (_, definitions) => !definitions.isEmpty).map fun (name, _) =>
    Naming.moduleName name

/-- The modules that are claimed: that of the global scope if it has enums, then the others in
    the order in which classes with enums first come to them. -/
def claimedModules (globalModule : String) (globals : List Enum.Definition)
    (classes : Dictionary String (List Enum.Definition)) : List String :=
  (if globals.isEmpty then [] else [globalModule]) ++
    ((classModules classes).filter (· ≠ globalModule)).eraseDups

/-- Who claims a module: the global scope claims its own if it has enums; any other module is
    claimed by the first class with enums whose module it is. -/
inductive Claims (globalModule : String) (globals : List Enum.Definition)
    (classes : Dictionary String (List Enum.Definition)) :
    (module owner : String) → List Enum.Definition → Prop where
  | globalScope : globals ≠ [] →
      Claims globalModule globals classes globalModule globalOwner globals
  | firstClass {before after : Dictionary String (List Enum.Definition)} {name : String}
      {definitions : List Enum.Definition} :
      classes = before ++ (name, definitions) :: after → definitions ≠ [] →
      Naming.moduleName name ≠ globalModule → Naming.moduleName name ∉ classModules before →
      Claims globalModule globals classes (Naming.moduleName name) name definitions

theorem namedByTexts_byText (classes : Dictionary String (List Enum.Definition)) :
    NamedByTexts (byText classes) := by
  intro entry hentry _
  obtain ⟨⟨name, definitions⟩, -, rfl⟩ := List.mem_map.mp hentry
  exact ⟨name, rfl⟩

theorem classModules_cons_empty (name : String)
    (rest : Dictionary String (List Enum.Definition)) :
    classModules ((name, []) :: rest) = classModules rest := rfl

theorem classModules_cons {name : String} {definitions : List Enum.Definition}
    (hlisted : definitions ≠ []) (rest : Dictionary String (List Enum.Definition)) :
    classModules ((name, definitions) :: rest) =
      Naming.moduleName name :: classModules rest := by
  simp [classModules, hlisted]

/-- The classes write the modules that are not taken from the start, each where it first
    comes. -/
theorem modulesOf_planClasses (holders : Dictionary String String)
    (classes : Dictionary String (List Enum.Definition)) :
    modulesOf (planClasses holders (byText classes)) =
      ((classModules classes).filter fun module =>
        (Dictionary.get? module holders).isNone).eraseDups := by
  induction classes generalizing holders with
  | nil => rfl
  | cons entry rest ih =>
    obtain ⟨name, definitions⟩ := entry
    by_cases hlisted : definitions = []
    · subst hlisted
      rw [classModules_cons_empty, ← ih holders]
      rfl
    · rw [classModules_cons hlisted]
      change modulesOf (planClasses holders ((.string name, definitions) :: byText rest)) = _
      cases htable : Dictionary.get? (Naming.moduleName name) holders with
      | some holder =>
        rw [planClasses_cons_taken hlisted htable, List.filter_cons_of_neg (by simp [htable])]
        exact ih holders
      | none =>
        rw [planClasses_cons_free hlisted htable, List.filter_cons_of_pos (by simp [htable]),
          List.eraseDups_cons, List.filter_filter]
        refine congrArg (Naming.moduleName name :: ·) ((ih _).trans (congrArg List.eraseDups ?_))
        refine List.filter_congr fun module _ => ?_
        rw [Bool.eq_iff_iff]
        simp [Dictionary.get?_insert_eq_none_iff, and_comm]

/-- A plan writes the modules that are claimed, in order. -/
theorem modulesOf_plan (globalModule : String) (globals : List Enum.Definition)
    (classes : Dictionary String (List Enum.Definition)) :
    modulesOf (plan globalModule globals (byText classes)) =
      claimedModules globalModule globals classes := by
  have hclasses := modulesOf_planClasses [(globalModule, globalOwner)] classes
  have hfilter : ((classModules classes).filter fun module =>
      (Dictionary.get? module [(globalModule, globalOwner)]).isNone) =
        (classModules classes).filter (· ≠ globalModule) := by
    refine List.filter_congr fun module _ => ?_
    rw [get?_globalTable]
    by_cases h : globalModule = module
    · simp [h]
    · simp [h, Ne.symm h]
  rw [hfilter] at hclasses
  unfold plan claimedModules
  rw [modulesOf_append, hclasses]
  split <;> rfl

theorem get?_tableAfter_byText_iff {globalModule module : String}
    {before : Dictionary String (List Enum.Definition)} :
    Dictionary.get? module (tableAfter globalModule (byText before)) = none ↔
      module ≠ globalModule ∧ module ∉ classModules before := by
  rw [tableAfter, get?_holdersAfter_eq_none_iff, get?_globalTable, modulesOf_planClasses,
    List.mem_eraseDups, List.mem_filter, get?_globalTable]
  by_cases h : globalModule = module
  · simp [h]
  · simp [h, Ne.symm h]

/-- Each claimed module is written for its claimant, and no module for anyone else. -/
theorem write_mem_plan_iff {globalModule : String} {globals : List Enum.Definition}
    {classes : Dictionary String (List Enum.Definition)} {module owner : String}
    {definitions : List Enum.Definition} :
    .write module owner definitions ∈ plan globalModule globals (byText classes) ↔
      Claims globalModule globals classes module owner definitions := by
  constructor
  · intro hwrite
    rcases List.mem_append.mp hwrite with hglobal | hclass
    · split at hglobal
      · cases hglobal
      · rename_i hglobals
        cases List.mem_singleton.mp hglobal
        exact .globalScope (by simpa using hglobals)
    · obtain ⟨rfl, before', after', hclasses, hne, -, hfree⟩ := write_mem_planClasses hclass
      obtain ⟨before, tail, hsplit, rfl, htail⟩ := List.map_eq_append_iff.mp hclasses
      obtain ⟨⟨name, ds⟩, after, rfl, hentry, -⟩ := List.map_eq_cons_iff.mp htail
      cases hentry
      obtain ⟨hglobal, hfirst⟩ := get?_tableAfter_byText_iff.mp hfree
      exact .firstClass hsplit hne hglobal hfirst
  · intro hclaims
    cases hclaims with
    | globalScope hglobals =>
      refine List.mem_append_left _ ?_
      rw [if_neg (by simpa using hglobals)]
      exact List.mem_singleton_self _
    | @firstClass before after _ _ hclasses hne hglobal hfirst =>
      have hfree := get?_tableAfter_byText_iff.mpr ⟨hglobal, hfirst⟩
      obtain ⟨others, hplan⟩ := hasStepAfter_write globals (byText after)
        (namedByTexts_byText before) hne hfree
      have hsplit : byText classes =
          byText before ++ (.string owner, definitions) :: byText after := by
        rw [hclasses, byText, List.map_append]
        rfl
      rw [hsplit, hplan]
      exact List.mem_append_right _ List.mem_cons_self

theorem mem_claimedModules_iff {globalModule module : String} {globals : List Enum.Definition}
    {classes : Dictionary String (List Enum.Definition)} :
    module ∈ claimedModules globalModule globals classes ↔
      ∃ owner definitions, Claims globalModule globals classes module owner definitions := by
  rw [← modulesOf_plan, mem_modulesOf_iff]
  simp only [write_mem_plan_iff]

/-- A claimed module has a slash in its name only if its claimant has, or the module of the
    global scope. -/
theorem slash_not_mem_claimedModules {globalModule : String} (globals : List Enum.Definition)
    {classes : Dictionary String (List Enum.Definition)} (hglobal : '/' ∉ globalModule.toList)
    (hclasses : ∀ entry ∈ classes, entry.2 ≠ [] → '/' ∉ entry.1.toList) :
    ∀ module ∈ claimedModules globalModule globals classes, '/' ∉ module.toList := by
  intro module hmodule
  obtain ⟨owner, definitions, hclaims⟩ := mem_claimedModules_iff.mp hmodule
  cases hclaims with
  | globalScope hglobals => exact hglobal
  | firstClass hsplit hlisted hother hfirst =>
    rw [Naming.slash_mem_moduleName_iff]
    refine hclasses (owner, definitions) ?_ hlisted
    rw [hsplit]
    exact List.mem_append_right _ List.mem_cons_self

end EngineBindings.Emission
