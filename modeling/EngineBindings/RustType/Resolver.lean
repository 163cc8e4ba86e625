/-
  EngineBindings/RustType/Resolver.lean
  =====================================
  **From the engine's type names to Rust types.**

  The API names types by plain texts, some of them qualified: `enum::Error`,
  `bitfield::Control.SizeFlags`, `typedarray::Node`, `PackedInt32Array`.  A resolver knows
  the engine's classes and a few settings and gives every name a Rust type.  The first rule
  that applies decides: an override, an enum, a packed array, a typed array, a class; a name
  under no rule is already a Rust identifier.
-/
import EngineBindings.Naming.Keyword
import EngineBindings.Naming.ModuleName
import EngineBindings.RustType.Basic
import EngineBindings.Dictionary

namespace EngineBindings

/-! ### Settings -/

/-- The names that the rules would get wrong, and the enums that Rust has as builtin types. -/
def standardOverrides : Dictionary String (Option String) :=
  [("int", some "i64"),
   ("float", some "f64"),
   ("String", some "GodotString"),
   ("enum::Variant.Type", some "VariantType"),
   ("enum::Variant.Operator", some "VariantOperator"),
   ("enum::Vector3.Axis", some "Vector3Axis")]

structure Settings where
  /-- Rust identifiers for whole names; an entry without one leaves its name to the rules. -/
  overrides : Dictionary String (Option String) := standardOverrides
  /-- The pointer over an engine object. -/
  handle : String := "Gd"
  /-- The container of a typed array. -/
  arrayContainer : String := "TypedArray"
  /-- The module of the enums that no class owns. -/
  globalModule : String := "global"

namespace Settings

def override (settings : Settings) (name : String) (rust : Option String) : Settings :=
  { settings with overrides := Dictionary.insert name rust settings.overrides }

/-- The override in force for a name. -/
def override? (settings : Settings) (name : String) : Option String :=
  (Dictionary.get? name settings.overrides).join

end Settings

/-! ### Resolution -/

/-- What a resolver needs to know: which names are engine classes, and the settings. -/
structure Resolver where
  knows : String → Bool
  settings : Settings := {}

namespace Resolver

/-- The part of a name after `enum::` or `bitfield::`. -/
def enumPart? (name : String) : Option String :=
  (Text.after? "enum::" name).or (Text.after? "bitfield::" name)

/-- The type of an enum: the owner stands before the first dot, and an enum without owner
    lives in the global module. -/
def enumType (resolver : Resolver) (part : String) : RustType :=
  match Text.cut? '.' part with
  | some (owner, name) => .enumIn (Naming.moduleName owner) (Naming.enumName name)
  | none => .enumIn resolver.settings.globalModule (Naming.enumName part)

/-- The type of a name that no rule on its text covers: a handle over a class, or the name
    itself. -/
def plainType (resolver : Resolver) (name : String) : RustType :=
  if resolver.knows name then .handleOver resolver.settings.handle name else .ident name

/-- What is left of a text after a nonempty beginning is shorter. -/
theorem length_lt_of_after? {start text rest : String} (h : Text.after? start text = some rest)
    (nonempty : 0 < start.length) : rest.length < text.length := by
  rw [Text.after?_eq_some_iff] at h
  subst h
  rw [String.length_append]
  omega

/-- The Rust type of a name of the API. -/
def resolve (resolver : Resolver) (name : String) : RustType :=
  match resolver.settings.override? name with
  | some rust => .ident rust
  | none =>
    match enumPart? name with
    | some part => resolver.enumType part
    | none =>
      match Text.after? "Packed" name with
      | some packed =>
        if Text.endsWith "Array" packed then .ident packed else resolver.plainType name
      | none =>
        match _h : Text.after? "typedarray::" name with
        | some element =>
          match Text.after? "Packed" element with
          | some packed => .ident packed
          | none => .container resolver.settings.arrayContainer [resolve resolver element]
        | none => resolver.plainType name
termination_by name.length
decreasing_by exact length_lt_of_after? _h (by decide)

end Resolver

end EngineBindings
