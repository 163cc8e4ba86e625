/-
  EngineBindings/Proofs/RustType/Nesting.lean
  ===========================================
  **Typed arrays inside each other.**

  A typed array resolves to a container over what its element resolves to, and the element may
  be a typed array again.  The elements form a chain of ever shorter names, which ends at a
  name that is no such array: one with an override, a typed array of a packed array, or a name
  without the beginning (`Settings.Chain`).  The type is that of the end of the chain inside as
  many containers as the chain has steps (`resolve_of_chain`).

  Nothing is asked about the names in between but whether they have overrides, so of all the
  names that may be classes only the end of the chain matters: `resolve_congr` says what a
  single name depends on, and the chain carries it to the whole.  Main statement:
  `nested_arrays_by_chain`.
-/
import EngineBindings.Proofs.RustType.Rule
import Mathlib.Logic.Function.Iterate

namespace EngineBindings

/-! ### Containers inside each other -/

namespace RustType

def arrayOf (container : String) (element : RustType) : RustType :=
  .container container [element]

theorem text_arrayOf (container : String) (element : RustType) :
    (arrayOf container element).text = container ++ "<" ++ element.text ++ ">" := by
  have hargs : ", ".intercalate (texts [element]) = element.text := by
    simp [texts]
  rw [arrayOf, RustType.container, text, bracketed, if_neg (by simp [texts]), hargs]
  simp [path, String.append_assoc]

theorem text_iterate_arrayOf (container : String) (levels : Nat) (core : RustType) :
    ((arrayOf container)^[levels] core).text =
      String.join (List.replicate levels (container ++ "<")) ++ core.text ++
        String.join (List.replicate levels ">") := by
  induction levels with
  | zero => simp
  | succ levels ih =>
    rw [Function.iterate_succ_apply', text_arrayOf, ih, List.replicate_succ, String.join_cons,
      List.replicate_succ', String.join_append, String.join_cons, String.join_nil]
    simp only [String.append_assoc, String.append_empty]

theorem depth_iterate_arrayOf (container : String) (levels : Nat) (core : RustType) :
    ((arrayOf container)^[levels] core).depth = levels + core.depth := by
  induction levels with
  | zero => simp
  | succ levels ih =>
    rw [Function.iterate_succ_apply', arrayOf, RustType.container, depth, depthBelow, depthBelow,
      ih]
    omega

end RustType

/-! ### Chains of elements -/

namespace Settings

variable {settings : Settings} {name element core : String} {levels : Nat}

/-- A name is a typed array of an element that is resolved by itself: the name has no override,
    and the element is no packed array. -/
structure IsArrayOf (settings : Settings) (name element : String) : Prop where
  free : settings.override? name = none
  spelled : name = "typedarray::" ++ element
  plain : ¬ ∃ packed, element = "Packed" ++ packed

theorem IsArrayOf.element_eq {other : String} (harray : settings.IsArrayOf name element)
    (harray' : settings.IsArrayOf name other) : element = other := by
  have hspelled := harray'.spelled
  rw [harray.spelled] at hspelled
  exact (String.append_right_inj _).mp hspelled

theorem IsArrayOf.length_lt (harray : settings.IsArrayOf name element) :
    element.length < name.length := by
  have hlength : "typedarray::".length = 12 := by decide
  rw [harray.spelled, String.length_append, hlength]
  omega

/-- The chain from a name to its element, to the element of that, and so on: so many steps lead
    to a name at which it ends. -/
inductive Chain (settings : Settings) : Nat → String → String → Prop where
  | stop {core : String} (last : ∀ element, ¬ settings.IsArrayOf core element) :
      Chain settings 0 core core
  | step {levels : Nat} {name element core : String} (array : settings.IsArrayOf name element)
      (rest : Chain settings levels element core) : Chain settings (levels + 1) name core

theorem Chain.last (hchain : settings.Chain levels name core) :
    ∀ element, ¬ settings.IsArrayOf core element := by
  induction hchain with
  | stop hlast => exact hlast
  | step _ _ ih => exact ih

/-- Every chain ends, because its names get shorter. -/
theorem exists_chain (settings : Settings) (name : String) :
    ∃ levels core, settings.Chain levels name core := by
  by_cases harray : ∃ element, settings.IsArrayOf name element
  · obtain ⟨element, harray⟩ := harray
    have hshorter := harray.length_lt
    obtain ⟨levels, core, hrest⟩ := exists_chain settings element
    exact ⟨levels + 1, core, .step harray hrest⟩
  · exact ⟨0, name, .stop (not_exists.mp harray)⟩
termination_by name.length

theorem Chain.unique {levels' : Nat} {core' : String} (hchain : settings.Chain levels name core)
    (hchain' : settings.Chain levels' name core') : levels = levels' ∧ core = core' := by
  induction hchain generalizing levels' core' with
  | stop hlast =>
    cases hchain' with
    | stop _ => exact ⟨rfl, rfl⟩
    | step harray _ => exact absurd harray (hlast _)
  | step harray _ ih =>
    cases hchain' with
    | stop hlast => exact absurd harray (hlast _)
    | step harray' hrest =>
      obtain rfl := harray.element_eq harray'
      obtain ⟨rfl, rfl⟩ := ih hrest
      exact ⟨rfl, rfl⟩

end Settings

/-! ### Resolving along a chain -/

namespace Resolver

variable {resolver other : Resolver} {name element core : String} {levels : Nat}

theorem resolve_of_isArrayOf (harray : resolver.settings.IsArrayOf name element) :
    resolver.resolve name =
      .arrayOf resolver.settings.arrayContainer (resolver.resolve element) :=
  (Gives.arrayOf harray.spelled harray.plain).resolve_eq (by decide) harray.free

theorem resolve_of_chain (hchain : resolver.settings.Chain levels name core) :
    resolver.resolve name =
      (RustType.arrayOf resolver.settings.arrayContainer)^[levels] (resolver.resolve core) := by
  induction hchain with
  | stop _ => rfl
  | step harray _ ih => rw [resolve_of_isArrayOf harray, ih, Function.iterate_succ_apply']

theorem kind_ne_generic_of_last (hlast : ∀ element, ¬ resolver.settings.IsArrayOf core element) :
    (resolver.resolve core).kind ≠ .generic := by
  intro hkind
  obtain ⟨hfirst, element, hspelled, hplain⟩ := kind_eq_generic_iff.mp hkind
  exact hlast element ⟨hfirst.free (by decide), hspelled, hplain⟩

/-- A run shows a type unless the chain, with the handle that may stand at its end, is longer
    than types may be deep. -/
theorem isTooDeep_resolve_iff (hchain : resolver.settings.Chain levels name core) :
    (resolver.resolve name).isTooDeep = true ↔
      RustType.maxDepth < levels + (resolver.resolve core).depth := by
  rw [RustType.isTooDeep, decide_eq_true_iff, resolve_of_chain hchain,
    RustType.depth_iterate_arrayOf]

/-! ### What a resolution depends on -/

theorem covers_congr_of_byText {rule : Rule} (hrule : rule ∈ Rule.byText) :
    other.Covers name rule ↔ resolver.Covers name rule := by
  cases rule with
  | enum => rw [covers_enum_iff, covers_enum_iff]
  | packedArray => rw [covers_packedArray_iff, covers_packedArray_iff]
  | typedArray => rw [covers_typedArray_iff, covers_typedArray_iff]
  | _ => exact absurd hrule (by decide)

/-- What a rule on the text of a name gives depends on the settings besides the overrides, and on
    the type of the element. -/
theorem Gives.congr {rule : Rule} {type : RustType} (hgives : resolver.Gives name rule type)
    (hrule : rule ∈ Rule.byText) (hfree : resolver.settings.override? name = none)
    (hsettings : other.settings =
      { resolver.settings with overrides := other.settings.overrides })
    (helement : ∀ element, resolver.settings.IsArrayOf name element →
      other.resolve element = resolver.resolve element) : other.Gives name rule type := by
  have hglobal : other.settings.globalModule = resolver.settings.globalModule := by
    rw [hsettings]
  have hcontainer : other.settings.arrayContainer = resolver.settings.arrayContainer := by
    rw [hsettings]
  cases hgives with
  | override _ => exact absurd hrule (by decide)
  | enum hspelled hplain =>
    rw [← hglobal]
    exact .enum hspelled hplain
  | packedArray hspelled hending => exact .packedArray hspelled hending
  | arrayOfPacked hspelled => exact .arrayOfPacked hspelled
  | arrayOf hspelled hplain =>
    rw [← hcontainer, ← helement _ ⟨hfree, hspelled, hplain⟩]
    exact .arrayOf hspelled hplain
  | engineClass _ => exact absurd hrule (by decide)
  | unchanged => exact absurd hrule (by decide)

/-- Two resolvers whose settings differ at most in their overrides agree on a name if they agree
    on its override, on whether it is a class, and on the type of its element. -/
theorem resolve_congr
    (hsettings : other.settings =
      { resolver.settings with overrides := other.settings.overrides })
    (hoverride : other.settings.override? name = resolver.settings.override? name)
    (hknows : other.knows name = resolver.knows name)
    (helement : ∀ element, resolver.settings.IsArrayOf name element →
      other.resolve element = resolver.resolve element) :
    other.resolve name = resolver.resolve name := by
  have hhandle : other.settings.handle = resolver.settings.handle := by
    rw [hsettings]
  cases hforce : resolver.settings.override? name with
  | some rust => rw [resolve_of_override hforce, resolve_of_override (hoverride.trans hforce)]
  | none =>
    have hfree : other.settings.override? name = none := hoverride.trans hforce
    by_cases hcovered : ∃ rule ∈ Rule.byText, resolver.Covers name rule
    · obtain ⟨rule, hrule, type, hgives⟩ := hcovered
      have hgives' : other.Gives name rule type := hgives.congr hrule hforce hsettings helement
      rw [hgives.resolve_eq hrule hforce, hgives'.resolve_eq hrule hfree]
    · have huncovered : ∀ rule ∈ Rule.byText, ¬ resolver.Covers name rule :=
        fun rule hrule hcovers => hcovered ⟨rule, hrule, hcovers⟩
      have huncovered' : ∀ rule ∈ Rule.byText, ¬ other.Covers name rule := by
        intro rule hrule
        rw [covers_congr_of_byText hrule]
        exact huncovered rule hrule
      rw [resolve_of_uncovered hforce huncovered, resolve_of_uncovered hfree huncovered',
        plainType, plainType, hknows, hhandle]

/-- Of all the answers about classes, only that about the end of the chain matters. -/
theorem resolve_congr_of_chain (hchain : resolver.settings.Chain levels name core)
    {knows : String → Bool} (hcore : knows core = resolver.knows core) :
    { resolver with knows := knows }.resolve name = resolver.resolve name := by
  have hend : { resolver with knows := knows }.resolve core = resolver.resolve core :=
    resolve_congr rfl rfl hcore fun element harray => absurd harray (hchain.last element)
  have hother : Settings.Chain { resolver with knows := knows }.settings levels name core := hchain
  rw [resolve_of_chain hchain, resolve_of_chain hother, hend]

/-- **The normal form of typed arrays inside each other.**  Every name has one chain, and
    resolves to what the end of the chain resolves to, which is no container itself, inside a
    container for each step.  The Rust text opens and closes one bracket a step around the text
    for the end, and the end is the only name of which it matters whether it is a class. -/
theorem nested_arrays_by_chain (resolver : Resolver) (name : String) :
    (∃! chain : Nat × String, resolver.settings.Chain chain.1 name chain.2) ∧
    ∀ levels core, resolver.settings.Chain levels name core →
      resolver.resolve name =
        (RustType.arrayOf resolver.settings.arrayContainer)^[levels] (resolver.resolve core) ∧
      (resolver.resolve core).kind ≠ .generic ∧
      (resolver.resolve name).text =
        String.join (List.replicate levels (resolver.settings.arrayContainer ++ "<")) ++
          (resolver.resolve core).text ++ String.join (List.replicate levels ">") ∧
      ∀ knows : String → Bool, knows core = resolver.knows core →
        { resolver with knows := knows }.resolve name = resolver.resolve name := by
  constructor
  · obtain ⟨levels, core, hchain⟩ := resolver.settings.exists_chain name
    refine ⟨(levels, core), hchain, ?_⟩
    rintro ⟨levels', core'⟩ hchain'
    obtain ⟨rfl, rfl⟩ := hchain.unique hchain'
    rfl
  · intro levels core hchain
    have hresolve := resolve_of_chain hchain
    refine ⟨hresolve, kind_ne_generic_of_last hchain.last, ?_, ?_⟩
    · rw [hresolve, RustType.text_iterate_arrayOf]
    · intro knows hcore
      exact resolve_congr_of_chain hchain hcore

def nodesResolver : Resolver :=
  { knows := (· == "Node")
    settings := ({} : Settings).override "typedarray::Node" (some "NodeList") }

/-- An override ends the chain before the class is reached. -/
theorem nested_nodes_by_chain :
    nodesResolver.settings.Chain 1 "typedarray::typedarray::Node" "typedarray::Node" ∧
    (nodesResolver.resolve "typedarray::typedarray::Node").text = "TypedArray<NodeList>" ∧
    { nodesResolver with knows := fun _ => false }.resolve "typedarray::typedarray::Node" =
      nodesResolver.resolve "typedarray::typedarray::Node" := by
  have hforce : nodesResolver.settings.override? "typedarray::Node" = some "NodeList" := by decide
  have hchain :
      nodesResolver.settings.Chain 1 "typedarray::typedarray::Node" "typedarray::Node" := by
    refine .step ⟨by decide, by decide, ?_⟩ (.stop fun element harray => ?_)
    · rw [← Text.after?_eq_none_iff]
      decide
    · have hfree := harray.free
      rw [hforce] at hfree
      cases hfree
  obtain ⟨-, -, htext, hknows⟩ :=
    (nested_arrays_by_chain nodesResolver "typedarray::typedarray::Node").2 _ _ hchain
  refine ⟨hchain, ?_, hknows _ (by decide)⟩
  rw [htext, resolve_of_override hforce]
  decide

end Resolver

end EngineBindings
