/-
  EngineBindings/Proofs/RustType/Rule.lean
  ========================================
  **The rules of the resolver as a flat list.**

  The resolver nests its tests: whether a name is a typed array is asked only of names that do
  not begin with `Packed`, and the ending of a packed array is looked for behind that
  beginning.  Here every rule says by itself which names it covers and what it gives them
  (`Gives`), and the first rule of a list that covers a name decides (`DecidedBy`).

  The nesting makes no difference, for two reasons.  The beginnings that the rules ask for
  differ in their first characters, so no two of them meet in one name (`byText_exclusive`);
  and `Packed` has no `A`, so an ending `Array` never begins inside it
  (`Text.endsWith_append`).  Main statement: `resolve_by_first_rule`.

  A typed array of a packed array is that packed array by its text alone.  An override of the
  packed array is not asked for there, so it holds for the packed array on its own and not in a
  typed array (`resolve_array_of_packed_iff`).
-/
import EngineBindings.Proofs.RustType.Resolver

namespace EngineBindings.Resolver

variable {resolver : Resolver} {name : String}

/-! ### One equation a case -/

theorem resolve_of_override {rust : String}
    (hforce : resolver.settings.override? name = some rust) :
    resolver.resolve name = .ident rust := by
  rw [resolve, hforce]

theorem enumPart?_packed (packed : String) : enumPart? ("Packed" ++ packed) = none :=
  enumPart?_append_of_ne rfl (by decide) (by decide) packed

theorem enumPart?_typedArray (element : String) : enumPart? ("typedarray::" ++ element) = none :=
  enumPart?_append_of_ne rfl (by decide) (by decide) element

theorem resolve_packed {packed : String}
    (hfree : resolver.settings.override? ("Packed" ++ packed) = none) :
    resolver.resolve ("Packed" ++ packed) =
      if Text.endsWith "Array" packed then .ident packed
      else resolver.plainType ("Packed" ++ packed) := by
  rw [resolve, hfree]
  dsimp only
  rw [enumPart?_packed]
  dsimp only
  rw [Text.after?_append]

theorem resolve_typedArray {element : String}
    (hfree : resolver.settings.override? ("typedarray::" ++ element) = none) :
    resolver.resolve ("typedarray::" ++ element) =
      (Text.after? "Packed" element).elim
        (.container resolver.settings.arrayContainer [resolver.resolve element]) .ident := by
  have hpacked : Text.after? "Packed" ("typedarray::" ++ element) = none :=
    Text.after?_append_of_ne rfl rfl (by decide) element
  rw [resolve, hfree]
  dsimp only
  rw [enumPart?_typedArray]
  dsimp only
  rw [hpacked]
  dsimp only
  -- the last test is also why the recursion ends, so it is split on and not rewritten
  split
  · rename_i found hfound
    rw [Text.after?_append, Option.some_inj] at hfound
    rw [← hfound]
    cases Text.after? "Packed" element <;> rfl
  · rename_i hnone
    rw [Text.after?_append] at hnone
    cases hnone

theorem resolve_plain (hfree : resolver.settings.override? name = none)
    (henum : enumPart? name = none) (hpacked : Text.after? "Packed" name = none)
    (harray : Text.after? "typedarray::" name = none) :
    resolver.resolve name = resolver.plainType name := by
  rw [resolve, hfree]
  dsimp only
  rw [henum]
  dsimp only
  rw [hpacked]
  dsimp only
  rw [harray]

/-! ### Rules -/

inductive Rule where
  | override
  | enum
  | packedArray
  | typedArray
  | engineClass
  | unchanged
deriving DecidableEq

inductive Gives (resolver : Resolver) (name : String) : Rule → RustType → Prop where
  | override {rust : String} (inForce : resolver.settings.override? name = some rust) :
      Gives resolver name .override (.ident rust)
  | enum {owner : EnumOwner} {enum : String}
      (spelled : name = "enum::" ++ owner.qualified enum ∨
        name = "bitfield::" ++ owner.qualified enum)
      (plain : owner.HasNoDot enum) :
      Gives resolver name .enum (.enumIn (owner.moduleOf resolver.settings.globalModule) enum)
  | packedArray {packed : String} (spelled : name = "Packed" ++ packed)
      (ending : ∃ front, name = front ++ "Array") :
      Gives resolver name .packedArray (.ident packed)
  | arrayOfPacked {packed : String} (spelled : name = "typedarray::" ++ ("Packed" ++ packed)) :
      Gives resolver name .typedArray (.ident packed)
  | arrayOf {element : String} (spelled : name = "typedarray::" ++ element)
      (plain : ¬ ∃ packed, element = "Packed" ++ packed) :
      Gives resolver name .typedArray
        (.container resolver.settings.arrayContainer [resolver.resolve element])
  | engineClass (known : resolver.knows name = true) :
      Gives resolver name .engineClass (.handleOver resolver.settings.handle name)
  | unchanged : Gives resolver name .unchanged (.ident name)

def Covers (resolver : Resolver) (name : String) (rule : Rule) : Prop :=
  ∃ type, resolver.Gives name rule type

/-- The first rule of a list that covers a name, and what it gives it. -/
inductive DecidedBy (resolver : Resolver) (name : String) :
    List Rule → Rule → RustType → Prop where
  | here {rule : Rule} {rest : List Rule} {type : RustType}
      (gives : resolver.Gives name rule type) :
      DecidedBy resolver name (rule :: rest) rule type
  | later {rule first : Rule} {rest : List Rule} {type : RustType}
      (uncovered : ¬ resolver.Covers name rule)
      (decided : DecidedBy resolver name rest first type) :
      DecidedBy resolver name (rule :: rest) first type

/-- The rules that go by the text of a name alone. -/
def Rule.byText : List Rule :=
  [.enum, .packedArray, .typedArray]

def Rule.inOrder : List Rule :=
  .override :: (Rule.byText ++ [.engineClass, .unchanged])

def IsFirst (resolver : Resolver) (name : String) (rule : Rule) : Prop :=
  ∃ type, resolver.DecidedBy name Rule.inOrder rule type

/-! ### Names that the rules cover -/

theorem covers_override_iff :
    resolver.Covers name .override ↔ ∃ rust, resolver.settings.override? name = some rust := by
  constructor
  · rintro ⟨_, hgives⟩
    cases hgives with
    | override hforce => exact ⟨_, hforce⟩
  · rintro ⟨rust, hforce⟩
    exact ⟨_, .override hforce⟩

theorem free_of_uncovered (huncovered : ¬ resolver.Covers name .override) :
    resolver.settings.override? name = none := by
  rw [Option.eq_none_iff_forall_ne_some]
  intro rust hforce
  exact huncovered (covers_override_iff.mpr ⟨rust, hforce⟩)

theorem covers_enum_iff :
    resolver.Covers name .enum ↔
      ∃ part, name = "enum::" ++ part ∨ name = "bitfield::" ++ part := by
  constructor
  · rintro ⟨_, hgives⟩
    cases hgives with
    | enum hspelled _ => exact ⟨_, hspelled⟩
  · rintro ⟨part, hspelled⟩
    obtain ⟨owner, enum, rfl, hplain⟩ := EnumOwner.exists_qualified part
    exact ⟨_, .enum hspelled hplain⟩

theorem covers_packedArray_iff :
    resolver.Covers name .packedArray ↔
      (∃ packed, name = "Packed" ++ packed) ∧ ∃ front, name = front ++ "Array" := by
  constructor
  · rintro ⟨_, hgives⟩
    cases hgives with
    | packedArray hspelled hending => exact ⟨⟨_, hspelled⟩, hending⟩
  · rintro ⟨⟨packed, hspelled⟩, hending⟩
    exact ⟨_, .packedArray hspelled hending⟩

theorem covers_typedArray_iff :
    resolver.Covers name .typedArray ↔ ∃ element, name = "typedarray::" ++ element := by
  constructor
  · rintro ⟨_, hgives⟩
    cases hgives with
    | arrayOfPacked hspelled => exact ⟨_, hspelled⟩
    | arrayOf hspelled _ => exact ⟨_, hspelled⟩
  · rintro ⟨element, hspelled⟩
    by_cases hpacked : ∃ packed, element = "Packed" ++ packed
    · obtain ⟨packed, rfl⟩ := hpacked
      exact ⟨_, .arrayOfPacked hspelled⟩
    · exact ⟨_, .arrayOf hspelled hpacked⟩

theorem covers_engineClass_iff :
    resolver.Covers name .engineClass ↔ resolver.knows name = true := by
  constructor
  · rintro ⟨_, hgives⟩
    cases hgives with
    | engineClass hknown => exact hknown
  · intro hknown
    exact ⟨_, .engineClass hknown⟩

/-- No two of the rules that go by the text of a name cover the same name. -/
theorem byText_exclusive (resolver : Resolver) (name : String) :
    Rule.byText.Pairwise fun rule other =>
      ¬ (resolver.Covers name rule ∧ resolver.Covers name other) := by
  have hpacked : ¬ (resolver.Covers name .enum ∧ resolver.Covers name .packedArray) := by
    rw [covers_enum_iff, covers_packedArray_iff]
    rintro ⟨⟨part, hspelled⟩, ⟨packed, rfl⟩, -⟩
    exact absurd ((enumPart?_eq_some_iff _ _).mpr hspelled) (by simp [enumPart?_packed])
  have harray : ¬ (resolver.Covers name .enum ∧ resolver.Covers name .typedArray) := by
    rw [covers_enum_iff, covers_typedArray_iff]
    rintro ⟨⟨part, hspelled⟩, element, rfl⟩
    exact absurd ((enumPart?_eq_some_iff _ _).mpr hspelled) (by simp [enumPart?_typedArray])
  have hboth : ¬ (resolver.Covers name .packedArray ∧ resolver.Covers name .typedArray) := by
    rw [covers_packedArray_iff, covers_typedArray_iff]
    rintro ⟨⟨⟨packed, rfl⟩, -⟩, element, heq⟩
    exact Text.append_ne_append rfl rfl (by decide) _ _ heq
  rw [Rule.byText, List.pairwise_cons, List.pairwise_pair]
  refine ⟨?_, hboth⟩
  intro other hother
  rcases List.mem_cons.mp hother with rfl | hother
  · exact hpacked
  · obtain rfl := List.mem_singleton.mp hother
    exact harray

/-! ### Deciding by the first rule -/

theorem DecidedBy.mem {rules : List Rule} {rule : Rule} {type : RustType}
    (hdecided : resolver.DecidedBy name rules rule type) : rule ∈ rules := by
  induction hdecided with
  | here _ => exact List.mem_cons_self
  | later _ _ ih => exact List.mem_cons_of_mem _ ih

theorem DecidedBy.gives {rules : List Rule} {rule : Rule} {type : RustType}
    (hdecided : resolver.DecidedBy name rules rule type) : resolver.Gives name rule type := by
  induction hdecided with
  | here hgives => exact hgives
  | later _ _ ih => exact ih

theorem DecidedBy.of_append {front back : List Rule} {rule : Rule} {type : RustType}
    (hdecided : resolver.DecidedBy name (front ++ back) rule type) :
    resolver.DecidedBy name front rule type ∨
      (∀ earlier ∈ front, ¬ resolver.Covers name earlier) ∧
        resolver.DecidedBy name back rule type := by
  induction front with
  | nil => exact Or.inr ⟨fun _ hmem => absurd hmem List.not_mem_nil, hdecided⟩
  | cons earlier front ih =>
    cases hdecided with
    | here hgives => exact Or.inl (.here hgives)
    | later huncovered hlater =>
      rcases ih hlater with hfront | ⟨hnone, hback⟩
      · exact Or.inl (.later huncovered hfront)
      · refine Or.inr ⟨?_, hback⟩
        rintro other hother
        rcases List.mem_cons.mp hother with rfl | hother
        · exact huncovered
        · exact hnone other hother

/-- A list with the last rule leaves no name undecided. -/
theorem exists_decidedBy (resolver : Resolver) (name : String) {rules : List Rule}
    (hlast : .unchanged ∈ rules) : ∃ rule type, resolver.DecidedBy name rules rule type := by
  induction rules with
  | nil => cases hlast
  | cons rule rest ih =>
    by_cases hcovers : resolver.Covers name rule
    · obtain ⟨type, hgives⟩ := hcovers
      exact ⟨rule, type, .here hgives⟩
    · have hrest : .unchanged ∈ rest := by
        rcases List.mem_cons.mp hlast with rfl | hrest
        · exact absurd ⟨_, .unchanged⟩ hcovers
        · exact hrest
      obtain ⟨first, type, hdecided⟩ := ih hrest
      exact ⟨first, type, .later hcovers hdecided⟩

/-! ### Resolving by the first rule -/

theorem endsWith_array_iff (packed : String) :
    Text.endsWith "Array" packed = true ↔ ∃ front, "Packed" ++ packed = front ++ "Array" := by
  rw [Text.endsWith_iff, Text.endsWith_append rfl (by decide)]

/-- Of the rules that go by the text, any that covers a name decides, whatever the others say. -/
theorem Gives.resolve_eq {rule : Rule} {type : RustType}
    (hgives : resolver.Gives name rule type) (hrule : rule ∈ Rule.byText)
    (hfree : resolver.settings.override? name = none) : resolver.resolve name = type := by
  cases hgives with
  | override _ => exact absurd hrule (by decide)
  | enum hspelled hplain => exact resolve_of_names ⟨hspelled, hplain, hfree⟩
  | packedArray hspelled hending =>
    subst hspelled
    rw [resolve_packed hfree, if_pos ((endsWith_array_iff _).mpr hending)]
  | arrayOfPacked hspelled =>
    subst hspelled
    rw [resolve_typedArray hfree, Text.after?_append, Option.elim_some]
  | arrayOf hspelled hplain =>
    subst hspelled
    rw [resolve_typedArray hfree, (Text.after?_eq_none_iff _ _).mpr hplain, Option.elim_none]
  | engineClass _ => exact absurd hrule (by decide)
  | unchanged => exact absurd hrule (by decide)

theorem resolve_of_uncovered (hfree : resolver.settings.override? name = none)
    (huncovered : ∀ rule ∈ Rule.byText, ¬ resolver.Covers name rule) :
    resolver.resolve name = resolver.plainType name := by
  by_cases hstart : ∃ packed, name = "Packed" ++ packed
  · obtain ⟨packed, rfl⟩ := hstart
    have hending : ¬ Text.endsWith "Array" packed = true := by
      rw [endsWith_array_iff]
      intro hending
      exact huncovered .packedArray (by decide)
        (covers_packedArray_iff.mpr ⟨⟨packed, rfl⟩, hending⟩)
    rw [resolve_packed hfree, if_neg hending]
  · refine resolve_plain hfree ?_ ((Text.after?_eq_none_iff _ _).mpr hstart) ?_
    · rw [Option.eq_none_iff_forall_ne_some]
      intro part hpart
      exact huncovered .enum (by decide)
        (covers_enum_iff.mpr ⟨part, (enumPart?_eq_some_iff _ _).mp hpart⟩)
    · rw [Text.after?_eq_none_iff]
      intro helement
      exact huncovered .typedArray (by decide) (covers_typedArray_iff.mpr helement)

theorem resolve_of_decidedBy {middle : List Rule} {rule : Rule} {type : RustType}
    (hmiddle : middle.Perm Rule.byText)
    (hdecided : resolver.DecidedBy name (.override :: (middle ++ [.engineClass, .unchanged]))
      rule type) : resolver.resolve name = type := by
  cases hdecided with
  | here hgives =>
    cases hgives with
    | override hforce => exact resolve_of_override hforce
  | later hnone hlater =>
    have hfree := free_of_uncovered hnone
    rcases hlater.of_append with hmid | ⟨huncovered, hback⟩
    · exact hmid.gives.resolve_eq (hmiddle.mem_iff.mp hmid.mem) hfree
    · have hplain : resolver.resolve name = resolver.plainType name :=
        resolve_of_uncovered hfree fun rule hrule =>
          huncovered rule (hmiddle.mem_iff.mpr hrule)
      cases hback with
      | here hgives =>
        cases hgives with
        | engineClass hknown => rw [hplain, plainType, if_pos hknown]
      | later hunknown hlast =>
        rw [covers_engineClass_iff] at hunknown
        cases hlast with
        | here hgives =>
          cases hgives with
          | unchanged => rw [hplain, plainType, if_neg hunknown]
        | later _ hnil => cases hnil

theorem resolve_eq_iff {middle : List Rule} (hmiddle : middle.Perm Rule.byText)
    (type : RustType) :
    resolver.resolve name = type ↔
      ∃ rule, resolver.DecidedBy name (.override :: (middle ++ [.engineClass, .unchanged]))
        rule type := by
  constructor
  · rintro rfl
    have hlast : .unchanged ∈ Rule.override :: (middle ++ [.engineClass, .unchanged]) := by simp
    obtain ⟨rule, type, hdecided⟩ := exists_decidedBy resolver name hlast
    rw [resolve_of_decidedBy hmiddle hdecided]
    exact ⟨rule, hdecided⟩
  · rintro ⟨rule, hdecided⟩
    exact resolve_of_decidedBy hmiddle hdecided

/-! ### Kinds -/

theorem exists_isFirst (resolver : Resolver) (name : String) :
    ∃ rule, resolver.DecidedBy name Rule.inOrder rule (resolver.resolve name) :=
  (resolve_eq_iff (List.Perm.refl _) _).mp rfl

theorem IsFirst.gives {rule : Rule} (hfirst : resolver.IsFirst name rule) :
    resolver.Gives name rule (resolver.resolve name) := by
  obtain ⟨type, hdecided⟩ := hfirst
  rw [resolve_of_decidedBy (List.Perm.refl _) hdecided]
  exact hdecided.gives

theorem IsFirst.free {rule : Rule} (hfirst : resolver.IsFirst name rule)
    (hrule : rule ≠ .override) : resolver.settings.override? name = none := by
  obtain ⟨type, hdecided⟩ := hfirst
  rw [Rule.inOrder] at hdecided
  cases hdecided with
  | here _ => exact absurd rfl hrule
  | later huncovered _ => exact free_of_uncovered huncovered

/-- A kind that one rule gives, and always, tells that this rule decided. -/
theorem kind_eq_iff_isFirst {kind : RustType.Kind} {rule : Rule}
    (hrule : ∀ {other type}, resolver.Gives name other type → (type.kind = kind ↔ other = rule)) :
    (resolver.resolve name).kind = kind ↔ resolver.IsFirst name rule := by
  constructor
  · intro hkind
    obtain ⟨other, hdecided⟩ := exists_isFirst resolver name
    obtain rfl := (hrule hdecided.gives).mp hkind
    exact ⟨_, hdecided⟩
  · intro hfirst
    exact (hrule hfirst.gives).mpr rfl

theorem Gives.kind_eq_engineEnum_iff {rule : Rule} {type : RustType}
    (hgives : resolver.Gives name rule type) : type.kind = .engineEnum ↔ rule = .enum := by
  cases hgives <;> simp

theorem Gives.kind_eq_engineClass_iff {rule : Rule} {type : RustType}
    (hgives : resolver.Gives name rule type) : type.kind = .engineClass ↔ rule = .engineClass := by
  cases hgives <;> simp

theorem kind_eq_generic_iff :
    (resolver.resolve name).kind = .generic ↔
      resolver.IsFirst name .typedArray ∧
        ∃ element, name = "typedarray::" ++ element ∧ ¬ ∃ packed, element = "Packed" ++ packed := by
  constructor
  · intro hkind
    obtain ⟨rule, hdecided⟩ := exists_isFirst resolver name
    have hgives := hdecided.gives
    generalize htype : resolver.resolve name = type at hkind hdecided hgives
    cases hgives with
    | arrayOf hspelled hplain => exact ⟨⟨_, hdecided⟩, _, hspelled, hplain⟩
    | _ => cases hkind
  · rintro ⟨hfirst, element, rfl, hplain⟩
    have hgives := hfirst.gives
    generalize resolver.resolve ("typedarray::" ++ element) = type at hgives
    cases hgives with
    | arrayOfPacked hspelled =>
      exact absurd ⟨_, (String.append_right_inj _).mp hspelled⟩ hplain
    | arrayOf _ _ => rfl

/-! ### The flat list -/

/-- **The first rule that covers a name decides.**  The rules that go by the text of a name may
    stand in any order between the overrides and the classes, because no name is covered by two
    of them; and the kind of a type tells which rule it came from, unless it is a plain
    identifier. -/
theorem resolve_by_first_rule (resolver : Resolver) (name : String) :
    (∀ middle : List Rule, middle.Perm [.enum, .packedArray, .typedArray] → ∀ type,
      resolver.resolve name = type ↔
        ∃ rule, resolver.DecidedBy name
          (.override :: (middle ++ [.engineClass, .unchanged])) rule type) ∧
    ([.enum, .packedArray, .typedArray].Pairwise fun rule other =>
      ¬ (resolver.Covers name rule ∧ resolver.Covers name other)) ∧
    ((resolver.resolve name).kind = .engineEnum ↔ resolver.IsFirst name .enum) ∧
    ((resolver.resolve name).kind = .generic ↔
      resolver.IsFirst name .typedArray ∧
        ∃ element, name = "typedarray::" ++ element ∧
          ¬ ∃ packed, element = "Packed" ++ packed) ∧
    ((resolver.resolve name).kind = .engineClass ↔ resolver.IsFirst name .engineClass) := by
  refine ⟨?_, byText_exclusive resolver name, ?_, kind_eq_generic_iff, ?_⟩
  · intro middle hmiddle type
    exact resolve_eq_iff hmiddle type
  · exact kind_eq_iff_isFirst Gives.kind_eq_engineEnum_iff
  · exact kind_eq_iff_isFirst Gives.kind_eq_engineClass_iff

/-- A resolver that knows the one class whose name begins like a packed array. -/
def sceneResolver : Resolver :=
  { knows := (· == "PackedScene") }

/-- The class is found, even by a list that asks for typed arrays first. -/
theorem packedScene_by_first_rule :
    [Rule.typedArray, .packedArray, .enum].Perm [.enum, .packedArray, .typedArray] ∧
    sceneResolver.resolve "PackedScene" = .handleOver "Gd" "PackedScene" := by
  have hperm : [Rule.typedArray, .packedArray, .enum].Perm [.enum, .packedArray, .typedArray] := by
    decide
  have hoverride : ¬ sceneResolver.Covers "PackedScene" .override := by
    rw [covers_override_iff, ← Option.isSome_iff_exists]
    decide
  have harray : ¬ sceneResolver.Covers "PackedScene" .typedArray := by
    rw [covers_typedArray_iff, ← Text.after?_eq_none_iff]
    decide
  have hpacked : ¬ sceneResolver.Covers "PackedScene" .packedArray := by
    rw [covers_packedArray_iff, ← Text.endsWith_iff]
    exact fun hboth => absurd hboth.2 (by decide)
  have henum : ¬ sceneResolver.Covers "PackedScene" .enum := by
    rw [covers_enum_iff]
    simp only [← enumPart?_eq_some_iff, ← Option.isSome_iff_exists]
    decide
  refine ⟨hperm, ((resolve_by_first_rule sceneResolver "PackedScene").1 _ hperm _).mpr ?_⟩
  exact ⟨.engineClass, .later hoverride (.later harray (.later hpacked (.later henum
    (.here (.engineClass (by decide))))))⟩

/-! ### Typed arrays of packed arrays -/

/-- A typed array of a packed array resolves to what stands behind `Packed`, and the packed array
    itself resolves to the same unless it is overridden by something else. -/
theorem resolve_array_of_packed_iff (resolver : Resolver) (name packed : String)
    (hstart : name = "Packed" ++ packed) (hending : ∃ front, name = front ++ "Array")
    (hfree : resolver.settings.override? ("typedarray::" ++ name) = none) :
    resolver.resolve ("typedarray::" ++ name) = .ident packed ∧
    (∀ rust, resolver.settings.override? name = some rust →
      resolver.resolve name = .ident rust) ∧
    (resolver.resolve ("typedarray::" ++ name) = resolver.resolve name ↔
      ∀ rust, resolver.settings.override? name = some rust → rust = packed) := by
  have harray : resolver.resolve ("typedarray::" ++ name) = .ident packed :=
    (Gives.arrayOfPacked (hstart ▸ rfl)).resolve_eq (by decide) hfree
  refine ⟨harray, fun rust => resolve_of_override, ?_⟩
  rw [harray]
  cases hforce : resolver.settings.override? name with
  | some rust =>
    rw [resolve_of_override hforce]
    constructor
    · intro heq other hother
      rw [← Option.some_inj.mp hother]
      exact (congrArg RustType.name heq).symm
    · intro hsame
      rw [hsame rust rfl]
  | none =>
    rw [(Gives.packedArray hstart hending).resolve_eq (by decide) hforce]
    simp

def packedResolver : Resolver :=
  { knows := fun _ => false, settings := ({} : Settings).override "PackedInt32Array" (some "Ints") }

/-- Without an override, a packed array is the same on its own and in a typed array. -/
theorem array_of_packed_byteArray :
    (∃ front, "PackedByteArray" = front ++ "Array") ∧
    packedResolver.settings.override? "typedarray::PackedByteArray" = none ∧
    packedResolver.resolve "typedarray::PackedByteArray" =
      packedResolver.resolve "PackedByteArray" := by
  have hending : ∃ front, "PackedByteArray" = front ++ "Array" := ⟨"PackedByte", by decide⟩
  have hfree : packedResolver.settings.override? "typedarray::PackedByteArray" = none := by
    decide
  have hnone : packedResolver.settings.override? "PackedByteArray" = none := by decide
  refine ⟨hending, hfree, ?_⟩
  refine (resolve_array_of_packed_iff packedResolver "PackedByteArray" "ByteArray" (by decide)
    hending hfree).2.2.mpr fun rust hrust => ?_
  rw [hnone] at hrust
  cases hrust

/-- An override of a packed array is not asked for in a typed array of it. -/
theorem packed_override_passed_over :
    (∃ packed, "PackedInt32Array" = "Packed" ++ packed) ∧
    (∃ front, "PackedInt32Array" = front ++ "Array") ∧
    packedResolver.settings.override? ("typedarray::" ++ "PackedInt32Array") = none ∧
    packedResolver.resolve "PackedInt32Array" = .ident "Ints" ∧
    packedResolver.resolve ("typedarray::" ++ "PackedInt32Array") = .ident "Int32Array" ∧
    packedResolver.resolve ("typedarray::" ++ "PackedInt32Array") ≠
      packedResolver.resolve "PackedInt32Array" := by
  have hfree : packedResolver.settings.override? ("typedarray::" ++ "PackedInt32Array") = none := by
    decide
  have hforce : packedResolver.settings.override? "PackedInt32Array" = some "Ints" := by decide
  have hown : packedResolver.resolve "PackedInt32Array" = .ident "Ints" :=
    resolve_of_override hforce
  have harray : packedResolver.resolve ("typedarray::" ++ "PackedInt32Array") =
      .ident "Int32Array" :=
    (Gives.arrayOfPacked (by decide)).resolve_eq (by decide) hfree
  refine ⟨⟨"Int32Array", by decide⟩, ⟨"PackedInt32", by decide⟩, hfree, hown, harray, ?_⟩
  rw [hown, harray]
  decide

end EngineBindings.Resolver
