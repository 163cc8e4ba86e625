/-
  EngineBindings/Proofs/Api/Combination.lean
  ==========================================
  **Which enums of an API combine.**

  Every enum that a catalog lists is the definition of an entry of the document, so its
  constants carry its name and its kind (`uniform_of_catalog`).  They do not carry its owner.
  Hence the constants of two listed enums combine exactly when both enums are bitfields and
  have one name (`collected_combine_iff`), and this may be so of the bitfields of two classes
  (`namesakes_combine`).
-/
import EngineBindings.Proofs.Api.Collection
import EngineBindings.Proofs.Enum.Ordinal

namespace EngineBindings

inductive EnumCatalog.Lists (enums : EnumCatalog) : Option Json → Enum.Definition → Prop
  | global {definition : Enum.Definition} (hlisted : definition ∈ enums.globals) :
      Lists enums none definition
  | ofClass {name : Json} {definitions : List Enum.Definition} {definition : Enum.Definition}
      (hclass : (name, definitions) ∈ enums.classes) (hlisted : definition ∈ definitions) :
      Lists enums (some name) definition

namespace Api

/-! ### Where the definitions come from -/

theorem uniform_of_definitions {entries : List Json} {made : List Enum.Definition}
    (hok : definitions entries = .ok made) : ∀ definition ∈ made, definition.Uniform := by
  intro definition hdefinition
  obtain ⟨entry, -, hentry⟩ := mem_of_mapM (mapError_eq_ok_iff.mp hok) definition hdefinition
  exact Enum.Definition.uniform_of_json hentry

theorem uniform_of_readClass {entry name : Json} {made : List Enum.Definition}
    (hok : readClass entry = .ok (some (name, made))) :
    ∀ definition ∈ made, definition.Uniform := by
  unfold readClass at hok
  split at hok
  · cases hok
  · split at hok
    · cases hok
    · cases hok
    · rename_i hdefinitions
      split at hok
      · cases hok
        obtain ⟨-, enums, -, hmade⟩ := classDefinitions?_eq_some_iff.mp hdefinitions
        exact uniform_of_definitions (definitions_eq_ok_iff.mpr hmade)
      · cases hok

theorem uniform_of_addClasses {entries : List Json}
    {classes : Dictionary Json (List Enum.Definition)}
    (hok : (addClasses [] entries).2 = .ok classes) {name : Json} {made : List Enum.Definition}
    (hclass : (name, made) ∈ classes) : ∀ definition ∈ made, definition.Uniform := by
  obtain ⟨-, rfl⟩ := addClasses_eq_ok hok
  obtain ⟨key, hpair⟩ := Dictionary.mem_ofPairs hclass
  obtain ⟨entry, -, hfound⟩ := List.mem_filterMap.mp hpair
  exact uniform_of_readClass (found?_eq_some.mp hfound)

/-- Every enum that a catalog lists is uniform, whoever owns it. -/
theorem uniform_of_catalog {api : Api} {enums : EnumCatalog} (hok : api.catalog.2 = .ok enums)
    {owner : Option Json} {definition : Enum.Definition}
    (hlists : enums.Lists owner definition) : definition.Uniform := by
  obtain ⟨globals, entries, -, -, hglobals, hclasses, -⟩ := catalog_eq_ok hok
  cases hlists with
  | global hlisted => exact uniform_of_definitions hglobals definition hlisted
  | ofClass hclass hlisted => exact uniform_of_addClasses hclasses hclass definition hlisted

/-! ### Combining -/

/-- When a constant of a listed enum combines with one of a second listed enum: both enums are
    bitfields and have one name.  The two owners do not matter.  If an enum is no bitfield, or
    else if the names differ, this is the cause of the refusal, and there is no other cause. -/
theorem collected_combine_iff (api : Api) (enums : EnumCatalog)
    (hok : api.catalog.2 = .ok enums) (owner other : Option Json)
    (first second : Enum.Definition) (hfirst : enums.Lists owner first)
    (hsecond : enums.Lists other second) (a b : Enum.Ordinal) (ha : first.HasConstant a)
    (hb : second.HasConstant b) :
    (a.or b = .error (.notBitfield first.name) ↔
        ¬ (first.isBitfield = true ∧ second.isBitfield = true)) ∧
      (a.or b = .error (.differentEnums first.name second.name) ↔
        (first.isBitfield = true ∧ second.isBitfield = true) ∧
          ¬ Enum.SameName first.name second.name) ∧
      ((∃ c, a.or b = .ok c) ↔
        (first.isBitfield = true ∧ second.isBitfield = true) ∧
          Enum.SameName first.name second.name) ∧
      ∀ c, a.or b = .ok c → c.enum = first.name ∧ c.isBitfield = true ∧
        c.value = Enum.bitOr a.value b.value := by
  obtain ⟨haName, haKind⟩ := uniform_of_catalog hok hfirst a ha
  obtain ⟨hbName, hbKind⟩ := uniform_of_catalog hok hsecond b hb
  rw [← haName, ← haKind, ← hbName, ← hbKind]
  by_cases hbits : a.isBitfield = true ∧ b.isBitfield = true
  · obtain ⟨haBits, hbBits⟩ := hbits
    by_cases hnames : Enum.SameName a.enum b.enum
    · rw [Enum.Ordinal.or_of_sameName haBits hbBits hnames]
      simp [haBits, hbBits, hnames]
    · rw [Enum.Ordinal.or_of_names_apart haBits hbBits hnames]
      simp [haBits, hbBits, hnames]
  · rw [Enum.Ordinal.or_of_not_bitfield hbits]
    simp only [hbits]
    simp

def bitfieldEntry (name enumerator : String) (value : Int) : Json :=
  .object [("name", .string name), ("is_bitfield", .bool true),
    ("values", .array [.object [("name", .string enumerator), ("value", .int value)]])]

/-- Two classes that both own a bitfield called `Flags`; the second owns one more. -/
def flagsApi : Api :=
  ⟨[("classes", .array
    [.object [("name", .string "A"), ("enums", .array [bitfieldEntry "Flags" "X" 1])],
     .object [("name", .string "B"),
       ("enums", .array [bitfieldEntry "Flags" "Y" 2, bitfieldEntry "Modes" "Z" 4])]])]⟩

def bitfieldOf (name enumerator : String) (value : Int) (fits : Enum.Fits value) :
    Enum.Definition :=
  ⟨.string name, [(.string enumerator, ⟨.string name, value, true, fits⟩)], true,
    some (.unset (.string name)), "i32", "i64"⟩

def flagsCatalog : EnumCatalog :=
  ⟨[], [(.string "A", [bitfieldOf "Flags" "X" 1 (by decide)]),
    (.string "B", [bitfieldOf "Flags" "Y" 2 (by decide), bitfieldOf "Modes" "Z" 4 (by decide)])]⟩

theorem catalog_flagsApi : flagsApi.catalog.2 = .ok flagsCatalog := rfl

theorem lists_flags_of_first :
    flagsCatalog.Lists (some (.string "A")) (bitfieldOf "Flags" "X" 1 (by decide)) :=
  .ofClass List.mem_cons_self List.mem_cons_self

theorem lists_flags_of_second :
    flagsCatalog.Lists (some (.string "B")) (bitfieldOf "Flags" "Y" 2 (by decide)) :=
  .ofClass (List.mem_cons_of_mem _ List.mem_cons_self) List.mem_cons_self

theorem lists_modes_of_second :
    flagsCatalog.Lists (some (.string "B")) (bitfieldOf "Modes" "Z" 4 (by decide)) :=
  .ofClass (List.mem_cons_of_mem _ List.mem_cons_self)
    (List.mem_cons_of_mem _ List.mem_cons_self)

/-- The zero constant of a bitfield of one class, and a constant of another bitfield of the
    other class: they do not combine. -/
theorem flags_and_modes_apart :
    flagsApi.catalog.2 = .ok flagsCatalog ∧
      flagsCatalog.Lists (some (.string "A")) (bitfieldOf "Flags" "X" 1 (by decide)) ∧
      flagsCatalog.Lists (some (.string "B")) (bitfieldOf "Modes" "Z" 4 (by decide)) ∧
      (bitfieldOf "Flags" "X" 1 (by decide)).constant (.string "UNSET") =
        .ok (.unset (.string "Flags")) ∧
      (bitfieldOf "Modes" "Z" 4 (by decide)).constant (.string "Z") =
        .ok ⟨.string "Modes", 4, true, by decide⟩ ∧
      (Enum.Ordinal.unset (.string "Flags")).or ⟨.string "Modes", 4, true, by decide⟩ =
        .error (.differentEnums (.string "Flags") (.string "Modes")) := by
  have hzero : (bitfieldOf "Flags" "X" 1 (by decide)).constant (.string "UNSET") =
      .ok (.unset (.string "Flags")) := rfl
  have hmode : (bitfieldOf "Modes" "Z" 4 (by decide)).constant (.string "Z") =
      .ok ⟨.string "Modes", 4, true, by decide⟩ := rfl
  obtain ⟨-, hnames, -⟩ := collected_combine_iff flagsApi flagsCatalog catalog_flagsApi
    (some (.string "A")) (some (.string "B")) _ _ lists_flags_of_first lists_modes_of_second _ _
    (Enum.Definition.hasConstant_of_constant hzero) (Enum.Definition.hasConstant_of_constant hmode)
  exact ⟨catalog_flagsApi, lists_flags_of_first, lists_modes_of_second, hzero, hmode,
    hnames.mpr ⟨⟨rfl, rfl⟩, by decide⟩⟩

/-- Bitfields of two classes are two types, but if they have one name, then their constants
    combine. -/
theorem namesakes_combine :
    flagsApi.catalog.2 = .ok flagsCatalog ∧
      flagsCatalog.Lists (some (.string "A")) (bitfieldOf "Flags" "X" 1 (by decide)) ∧
      flagsCatalog.Lists (some (.string "B")) (bitfieldOf "Flags" "Y" 2 (by decide)) ∧
      (bitfieldOf "Flags" "X" 1 (by decide)).constant (.string "X") =
        .ok ⟨.string "Flags", 1, true, by decide⟩ ∧
      (bitfieldOf "Flags" "Y" 2 (by decide)).constant (.string "Y") =
        .ok ⟨.string "Flags", 2, true, by decide⟩ ∧
      Enum.Ordinal.or ⟨.string "Flags", 1, true, by decide⟩
          ⟨.string "Flags", 2, true, by decide⟩ =
        .ok ⟨.string "Flags", 3, true, by decide⟩ :=
  ⟨catalog_flagsApi, lists_flags_of_first, lists_flags_of_second, rfl, rfl, rfl⟩

end Api

end EngineBindings
