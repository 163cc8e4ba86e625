/-
  EngineBindings/Proofs/RustType/Override.lean
  ============================================
  **How far an override reaches.**

  Settings with one more override are made of settings that stay as they are, so the settings of
  a session form a forest: some are planted with overrides of their own, and every other one
  grows from one that was there before.  What its steps say about a place of the forest is said
  about that place only (`Forest.GrownBy`), and so the override in force there is found on the
  way from the root: the last one that was set for the name, or else the root's
  (`Forest.Way.settings_eq`).

  In a resolution an override is met at its own name and at the names that lead to it, which are
  the typed arrays around it; every other name resolves as before
  (`resolve_override_of_not_nested`).  Main statement: `overrides_reach`.
-/
import EngineBindings.Proofs.RustType.Nesting
import Mathlib.Data.List.Induction

namespace EngineBindings

/-! ### Overrides in force -/

namespace Settings

theorem override?_override_self (settings : Settings) (name : String) (rust : Option String) :
    (settings.override name rust).override? name = rust := by
  rw [override?, override, Dictionary.get?_insert_self]
  rfl

theorem override?_override_of_ne {name other : String} (hne : other ≠ name) (settings : Settings)
    (rust : Option String) :
    (settings.override name rust).override? other = settings.override? other := by
  rw [override?, override, Dictionary.get?_insert_of_ne (Ne.symm hne), override?]

def overrideAll (base : Settings) (overrides : List (String × Option String)) : Settings :=
  overrides.foldl (fun settings (name, rust) => settings.override name rust) base

theorem overrideAll_append (base : Settings) (front back : List (String × Option String)) :
    base.overrideAll (front ++ back) = (base.overrideAll front).overrideAll back :=
  List.foldl_append

theorem overrideAll_cons (base : Settings) (name : String) (rust : Option String)
    (rest : List (String × Option String)) :
    base.overrideAll ((name, rust) :: rest) = (base.override name rust).overrideAll rest :=
  rfl

theorem override?_overrideAll_of_not_mem {name : String} (base : Settings)
    {overrides : List (String × Option String)} (hnone : name ∉ overrides.map Prod.fst) :
    (base.overrideAll overrides).override? name = base.override? name := by
  induction overrides generalizing base with
  | nil => rfl
  | cons entry rest ih =>
    obtain ⟨other, rust⟩ := entry
    rw [List.map_cons, List.mem_cons, not_or] at hnone
    rw [overrideAll_cons, ih _ hnone.2, override?_override_of_ne hnone.1]

theorem override?_overrideAll_of_last {name : String} {rust : Option String} (base : Settings)
    (before : List (String × Option String)) {after : List (String × Option String)}
    (hlast : name ∉ after.map Prod.fst) :
    (base.overrideAll (before ++ (name, rust) :: after)).override? name = rust := by
  rw [overrideAll_append, overrideAll_cons, override?_overrideAll_of_not_mem _ hlast,
    override?_override_self]

end Settings

/-! ### Forests of settings -/

/-- A step in the growth of a forest: settings of their own are planted, or settings grow from
    those at a place of the forest, with one more override. -/
inductive Growth where
  | plant (settings : Settings)
  | derive (parent : Nat) (name : String) (rust : Option String)

abbrev Forest := List Settings

namespace Forest

variable {forest forest' : Forest} {steps : List Growth} {place : Nat}

def made? (forest : Forest) : Growth → Option Settings
  | .plant settings => some settings
  | .derive parent name rust => forest[parent]?.map fun settings => settings.override name rust

def grow? (forest : Forest) (step : Growth) : Option Forest :=
  (forest.made? step).map fun settings => forest ++ [settings]

def grown? (steps : List Growth) : Option Forest :=
  steps.foldlM grow? []

/-- The way to a place of a forest: the settings at its root, and the overrides that were set
    from there on. -/
inductive Way (steps : List Growth) : Nat → Settings → List (String × Option String) → Prop where
  | root {place : Nat} {base : Settings} (planted : steps[place]? = some (.plant base)) :
      Way steps place base []
  | branch {place parent : Nat} {name : String} {rust : Option String} {base : Settings}
      {overrides : List (String × Option String)}
      (derived : steps[place]? = some (.derive parent name rust))
      (toParent : Way steps parent base overrides) :
      Way steps place base (overrides ++ [(name, rust)])

/-- At each place of a forest stands what its step made of the forest before it. -/
structure GrownBy (forest : Forest) (steps : List Growth) : Prop where
  length_eq : forest.length = steps.length
  made : ∀ place step, steps[place]? = some step →
    made? (forest.take place) step = forest[place]?

/-! ### Growth -/

theorem GrownBy.grow {step : Growth} (hgrown : forest.GrownBy steps)
    (hstep : forest.grow? step = some forest') : forest'.GrownBy (steps ++ [step]) := by
  obtain ⟨settings, hmade, rfl⟩ := Option.map_eq_some_iff.mp hstep
  refine ⟨by simp [hgrown.length_eq], ?_⟩
  intro place other hother
  -- an old place sees the same forest before it, the new one sees the whole of the old forest
  rcases Nat.lt_or_ge place steps.length with hold | hnew
  · have hinside : place < forest.length := hgrown.length_eq ▸ hold
    rw [List.getElem?_append_left hold] at hother
    rw [List.take_append_of_le_length (Nat.le_of_lt hinside), hgrown.made place other hother,
      List.getElem?_append_left hinside]
  · have hplace : place = steps.length := by
      have hlength := (List.getElem?_eq_some_iff.mp hother).1
      rw [List.length_append, List.length_singleton] at hlength
      omega
    subst hplace
    rw [List.getElem?_concat_length, Option.some_inj] at hother
    rw [← hgrown.length_eq, List.take_left, List.getElem?_concat_length, ← hother, hmade]

theorem grownBy_of_grown? (hrun : grown? steps = some forest) : forest.GrownBy steps := by
  induction steps using List.reverseRecOn generalizing forest with
  | nil =>
    cases hrun
    exact ⟨rfl, fun place step hstep => absurd hstep (by simp)⟩
  | append_singleton steps step ih =>
    rw [grown?, List.foldlM_append] at hrun
    obtain ⟨before, hbefore, hlast⟩ := Option.bind_eq_some_iff.mp hrun
    rw [List.foldlM_cons] at hlast
    obtain ⟨after, hstep, hnil⟩ := Option.bind_eq_some_iff.mp hlast
    cases hnil
    exact (ih hbefore).grow hstep

/-! ### Ways -/

theorem GrownBy.derived {parent : Nat} {name : String} {rust : Option String}
    (hgrown : forest.GrownBy steps) (hderived : steps[place]? = some (.derive parent name rust)) :
    parent < place ∧ ∃ settings, forest[parent]? = some settings ∧
      forest[place]? = some (settings.override name rust) := by
  have hinside : place < forest.length := by
    rw [hgrown.length_eq]
    exact (List.getElem?_eq_some_iff.mp hderived).1
  have hmade := hgrown.made place _ hderived
  rw [made?, List.getElem?_eq_getElem hinside, Option.map_eq_some_iff] at hmade
  obtain ⟨settings, hparent, heq⟩ := hmade
  rw [List.getElem?_take] at hparent
  by_cases hearlier : parent < place
  · rw [if_pos hearlier] at hparent
    exact ⟨hearlier, settings, hparent, by rw [List.getElem?_eq_getElem hinside, heq]⟩
  · rw [if_neg hearlier] at hparent
    cases hparent

theorem Way.settings_eq {base : Settings} {overrides : List (String × Option String)}
    (hgrown : forest.GrownBy steps) (hway : Way steps place base overrides) :
    forest[place]? = some (base.overrideAll overrides) := by
  induction hway with
  | root hplanted => exact (hgrown.made _ _ hplanted).symm
  | branch hderived _ ih =>
    obtain ⟨-, settings, hparent, hplace⟩ := hgrown.derived hderived
    rw [ih, Option.some_inj] at hparent
    rw [hplace, Settings.overrideAll_append, hparent]
    rfl

/-- Every place has a way to it, because settings grow from earlier ones. -/
theorem GrownBy.exists_way (hgrown : forest.GrownBy steps) (place : Nat)
    (hplace : place < steps.length) : ∃ base overrides, Way steps place base overrides := by
  have hstep := List.getElem?_eq_getElem hplace
  cases hcase : steps[place] with
  | plant base =>
    rw [hcase] at hstep
    exact ⟨base, [], .root hstep⟩
  | derive parent name rust =>
    rw [hcase] at hstep
    have hearlier := (hgrown.derived hstep).1
    obtain ⟨base, overrides, hway⟩ := hgrown.exists_way parent (Nat.lt_trans hearlier hplace)
    exact ⟨base, _, .branch hstep hway⟩
termination_by place

end Forest

/-! ### Names that an override reaches -/

/-- A name is another one behind so many beginnings of a typed array. -/
def IsNested (raw name : String) : Prop :=
  ∃ levels, name = String.join (List.replicate levels "typedarray::") ++ raw

theorem isNested_self (raw : String) : IsNested raw raw :=
  ⟨0, by simp⟩

theorem IsNested.typedArray {raw element : String} (hnested : IsNested raw element) :
    IsNested raw ("typedarray::" ++ element) := by
  obtain ⟨levels, rfl⟩ := hnested
  exact ⟨levels + 1, by rw [List.replicate_succ, String.join_cons, String.append_assoc]⟩

namespace Resolver

/-- One more override leaves the names alone that do not lead to it. -/
theorem resolve_override_of_not_nested (resolver : Resolver) {raw name : String}
    (rust : Option String) (hname : ¬ IsNested raw name) :
    { resolver with settings := resolver.settings.override raw rust }.resolve name =
      resolver.resolve name := by
  obtain ⟨levels, core, hchain⟩ := resolver.settings.exists_chain name
  -- the table is asked at every name of the chain, and none of them is `raw`: otherwise all
  -- the names before it would lead to it
  induction hchain with
  | @stop core hlast =>
    have hne : core ≠ raw := fun heq => hname (heq ▸ isNested_self raw)
    exact resolve_congr rfl (Settings.override?_override_of_ne hne _ _) rfl
      fun element harray => absurd harray (hlast element)
  | @step levels name element core harray _ ih =>
    have hne : name ≠ raw := fun heq => hname (heq ▸ isNested_self raw)
    have helement : ¬ IsNested raw element := fun hnested =>
      hname (harray.spelled ▸ hnested.typedArray)
    refine resolve_congr rfl (Settings.override?_override_of_ne hne _ _) rfl ?_
    intro other harray'
    rw [← harray.element_eq harray']
    exact ih helement

/-- **Overrides reach as far as they should.**  In a forest of settings the override in force
    for a name is the last one set for it on the way from the root, or else the root's.  And one
    more override changes the type of its own name at most, and of the typed arrays around it. -/
theorem overrides_reach :
    (∀ steps forest, Forest.grown? steps = some forest →
      ∀ place settings, forest[place]? = some settings →
        (∃ base overrides, Forest.Way steps place base overrides) ∧
        ∀ base overrides, Forest.Way steps place base overrides → ∀ name,
          (∀ before rust after, overrides = before ++ (name, rust) :: after →
            name ∉ after.map Prod.fst → settings.override? name = rust) ∧
          (name ∉ overrides.map Prod.fst → settings.override? name = base.override? name)) ∧
    ∀ (resolver : Resolver) (raw : String) (rust : Option String) (name : String),
      { resolver with settings := resolver.settings.override raw rust }.resolve name ≠
          resolver.resolve name →
        ∃ levels, name = String.join (List.replicate levels "typedarray::") ++ raw := by
  constructor
  · intro steps forest hrun place settings hplace
    have hgrown := Forest.grownBy_of_grown? hrun
    constructor
    · refine hgrown.exists_way place ?_
      rw [← hgrown.length_eq]
      exact (List.getElem?_eq_some_iff.mp hplace).1
    · intro base overrides hway name
      have hsettings := hway.settings_eq hgrown
      rw [hplace, Option.some_inj] at hsettings
      subst hsettings
      constructor
      · rintro before rust after rfl hlast
        exact base.override?_overrideAll_of_last before hlast
      · intro hnone
        exact base.override?_overrideAll_of_not_mem hnone
  · intro resolver raw rust name hdiffer
    by_contra hname
    exact hdiffer (resolve_override_of_not_nested resolver rust hname)

/-- Settings that grow from one root in turns: two overrides of one name, and one of another name
    in between on a branch of its own. -/
def turnsOfGrowth : List Growth :=
  [.plant {}, .derive 0 "Node" (some "NodeRef"), .derive 0 "int" (some "i32"),
    .derive 1 "Node" (some "NodeRc")]

def turnsForest : Forest :=
  [{}, ({} : Settings).override "Node" (some "NodeRef"),
    ({} : Settings).override "int" (some "i32"),
    (({} : Settings).override "Node" (some "NodeRef")).override "Node" (some "NodeRc")]

def shortIntResolver : Resolver :=
  { nodesResolver with settings := nodesResolver.settings.override "int" (some "i32") }

/-- The later override of a branch is in force there, that of the other branch is not; and an
    override of `int` changes an array of it. -/
theorem overrides_reach_in_turns :
    (Forest.grown? turnsOfGrowth = some turnsForest ∧
      ∃ settings, turnsForest[3]? = some settings ∧
        settings.override? "Node" = some "NodeRc" ∧ settings.override? "int" = some "i64") ∧
    shortIntResolver.resolve "typedarray::int" ≠ nodesResolver.resolve "typedarray::int" ∧
    ∃ levels, "typedarray::int" = String.join (List.replicate levels "typedarray::") ++ "int" := by
  have hrun : Forest.grown? turnsOfGrowth = some turnsForest := rfl
  have hway : Forest.Way turnsOfGrowth 3 {} [("Node", some "NodeRef"), ("Node", some "NodeRc")] :=
    .branch rfl (.branch rfl (.root rfl))
  have hinForce := ((overrides_reach.1 _ _ hrun 3 _ rfl).2 _ _ hway "Node").1
    [("Node", some "NodeRef")] _ [] rfl (by decide)
  have hbase := ((overrides_reach.1 _ _ hrun 3 _ rfl).2 _ _ hway "int").2 (by decide)
  have hplain : ¬ ∃ packed, "int" = "Packed" ++ packed := by
    rw [← Text.after?_eq_none_iff]
    decide
  have hbefore : nodesResolver.settings.IsArrayOf "typedarray::int" "int" :=
    ⟨by decide, by decide, hplain⟩
  have hafter : shortIntResolver.settings.IsArrayOf "typedarray::int" "int" :=
    ⟨by decide, by decide, hplain⟩
  have hlong : nodesResolver.settings.override? "int" = some "i64" := by decide
  have hshort : shortIntResolver.settings.override? "int" = some "i32" := by decide
  have hdiffer : shortIntResolver.resolve "typedarray::int" ≠
      nodesResolver.resolve "typedarray::int" := by
    rw [resolve_of_isArrayOf hafter, resolve_of_isArrayOf hbefore, resolve_of_override hshort,
      resolve_of_override hlong]
    decide
  exact ⟨⟨hrun, _, rfl, hinForce, hbase.trans (by decide)⟩, hdiffer,
    overrides_reach.2 nodesResolver "int" (some "i32") _ hdiffer⟩

end Resolver

end EngineBindings
