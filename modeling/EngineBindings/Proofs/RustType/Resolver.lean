/-
  EngineBindings/Proofs/RustType/Resolver.lean
  ============================================
  **How the name of an enum is read.**

  An enum stands in the API under `enum::` or `bitfield::`, and behind that comes its owner
  with a dot, or its own name alone (`EnumOwner.qualified`).  A resolver cuts at the first
  dot, so it finds the owner again exactly when there is no other dot before the one that was
  put there (`enumType_qualified`).
-/
import EngineBindings.Proofs.Text.Affix
import EngineBindings.RustType.Resolver

namespace EngineBindings

/-! ### Names of enums -/

inductive EnumOwner where
  | globalScope
  | ofClass (name : String)
deriving DecidableEq

namespace EnumOwner

def qualified : EnumOwner → String → String
  | globalScope, enum => enum
  | ofClass name, enum => name ++ "." ++ enum

/-- The qualified name is cut where it was put together: the class has no dot in its name, and
    an enum without owner has none in its own. -/
def HasNoDot : EnumOwner → String → Prop
  | globalScope, enum => '.' ∉ enum.toList
  | ofClass name, _ => '.' ∉ name.toList

instance (owner : EnumOwner) (enum : String) : Decidable (owner.HasNoDot enum) :=
  match owner with
  | globalScope => inferInstanceAs (Decidable ('.' ∉ enum.toList))
  | ofClass name => inferInstanceAs (Decidable ('.' ∉ name.toList))

/-- Every text is a qualified name: what stands before its first dot is the owner. -/
theorem exists_qualified (part : String) :
    ∃ (owner : EnumOwner) (enum : String), part = owner.qualified enum ∧ owner.HasNoDot enum := by
  by_cases hdot : '.' ∈ part.toList
  · obtain ⟨front, back, hsplit, hfront⟩ := List.eq_append_cons_of_mem hdot
    refine ⟨.ofClass (String.ofList front), String.ofList back, ?_, ?_⟩
    · rw [qualified, ← String.toList_inj, hsplit]
      simp
    · rw [HasNoDot, String.toList_ofList]
      exact hfront
  · exact ⟨.globalScope, part, rfl, hdot⟩

def moduleOf (globalModule : String) : EnumOwner → String
  | globalScope => globalModule
  | ofClass name => Naming.moduleName name

end EnumOwner

namespace Resolver

theorem enumPart?_eq_some_iff (name part : String) :
    enumPart? name = some part ↔ name = "enum::" ++ part ∨ name = "bitfield::" ++ part := by
  rw [enumPart?, Option.or_eq_some_iff, Text.after?_eq_some_iff, Text.after?_eq_some_iff,
    Text.after?_eq_none_iff]
  constructor
  · rintro (henum | ⟨-, hbitfield⟩)
    · exact Or.inl henum
    · exact Or.inr hbitfield
  · rintro (henum | rfl)
    · exact Or.inl henum
    · refine Or.inr ⟨?_, rfl⟩
      rintro ⟨rest, heq⟩
      exact Text.append_ne_append rfl rfl (by decide) part rest heq

/-- A name that begins with neither `e` nor `b` is not that of an enum. -/
theorem enumPart?_append_of_ne {start : String} {c : Char} (hstart : start.toList.head? = some c)
    (henum : 'e' ≠ c) (hbitfield : 'b' ≠ c) (rest : String) : enumPart? (start ++ rest) = none := by
  rw [enumPart?, Text.after?_append_of_ne rfl hstart henum,
    Text.after?_append_of_ne rfl hstart hbitfield, Option.none_or]

/-- A name stands for an enum of an owner: it is the qualified name behind one of the two
    beginnings, it can be cut again, and no override takes it away from the rules. -/
structure Names (resolver : Resolver) (raw : String) (owner : EnumOwner) (enum : String) :
    Prop where
  spelled : raw = "enum::" ++ owner.qualified enum ∨ raw = "bitfield::" ++ owner.qualified enum
  plain : owner.HasNoDot enum
  free : resolver.settings.override? raw = none

theorem enumType_qualified (resolver : Resolver) {owner : EnumOwner} {enum : String}
    (hplain : owner.HasNoDot enum) :
    resolver.enumType (owner.qualified enum) =
      .enumIn (owner.moduleOf resolver.settings.globalModule) enum := by
  cases owner with
  | globalScope =>
    have hcut : Text.cut? '.' enum = none := Text.cut?_eq_none hplain
    rw [EnumOwner.qualified, enumType, hcut]
    rfl
  | ofClass name =>
    have hcut : Text.cut? '.' (name ++ "." ++ enum) = some (name, enum) :=
      Text.cut?_append rfl hplain
    rw [EnumOwner.qualified, enumType, hcut]
    rfl

/-- An enum resolves to its own name in the module of its owner. -/
theorem resolve_of_names {resolver : Resolver} {raw enum : String} {owner : EnumOwner}
    (hnames : resolver.Names raw owner enum) :
    resolver.resolve raw = .enumIn (owner.moduleOf resolver.settings.globalModule) enum := by
  have hpart : enumPart? raw = some (owner.qualified enum) :=
    (enumPart?_eq_some_iff _ _).mpr hnames.spelled
  rw [resolve, hnames.free]
  dsimp only
  rw [hpart]
  exact enumType_qualified resolver hnames.plain

end Resolver

end EngineBindings
