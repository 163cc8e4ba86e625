/-
  EngineBindings/Enum/Definition.lean
  ===================================
  **Enums as they are generated.**

  A definition is the generated type of an enum: its name, its constants in order, and for a
  bitfield the constant `UNSET` with no bit set.  The same constants are seen as a list, as
  a dictionary from names to values, and as the fields that templates print.
-/
import EngineBindings.Enum.Declaration

namespace EngineBindings.Enum

/-- A generated enum type. -/
structure Definition where
  name : Json
  enumerators : List (Json × Ordinal)
  isBitfield : Bool
  unset : Option Ordinal
  /-- The Rust type that holds an ordinal. -/
  storageType : String
  /-- The Rust type that shows an ordinal. -/
  accessorType : String

namespace Definition

/-- The definition of its parts.  Every constant has a name that can be looked up, and the
    zero constant has its name to itself. -/
def make (name : Json) (enumerators : List (Json × Ordinal)) (isBitfield : Bool)
    (unset : Option Ordinal) (storageType : String := "i32") (accessorType : String := "i64") :
    Except Error Definition :=
  match enumerators.find? fun (name, _) => !name.isKey with
  | some (bad, _) => .error (.notKey bad)
  | none =>
    if unset.isSome && enumerators.any (fun (name, _) => name == .string zeroName) then
      .error (.reservedName name)
    else .ok ⟨name, enumerators, isBitfield, unset, storageType, accessorType⟩

/-- The definition of a declared enum: the constants keep its order and its numbers. -/
def ofDeclaration (declaration : Declaration) : Except Error Definition := do
  let name := declaration.name
  let enumerators ← declaration.values.mapM fun v => do
    let ordinal ← Ordinal.make name (.int v.value) declaration.isBitfield
    pure (v.name, ordinal)
  make name enumerators declaration.isBitfield
    (if declaration.isBitfield then some (.unset name) else none)

/-- The definition of an entry of the document. -/
def ofJson (entry : Json) : Except Error Definition := do
  ofDeclaration (← Declaration.ofJson entry)

/-! ### Views -/

def names (d : Definition) : List Json :=
  d.enumerators.map Prod.fst

def ordinals (d : Definition) : Dictionary Json Int :=
  Dictionary.ofPairs (d.enumerators.map fun (name, ordinal) => (name, ordinal.value))

/-- The constants by name, the zero constant of a bitfield among them. -/
def constants (d : Definition) : Dictionary Json Ordinal :=
  let declared := Dictionary.ofPairs d.enumerators
  match d.unset with
  | some zero => Dictionary.insert (.string zeroName) zero declared
  | none => declared

def constant (d : Definition) (name : Json) : Except Error Ordinal :=
  if !name.isKey then .error (.notKey name)
  else
    match Dictionary.get? name d.constants with
    | some ordinal => .ok ordinal
    | none => .error (.unknownConstant name)

/-- The value with the bits of two values.  They need not be constants of the definition that
    is asked. -/
def combine (_ : Definition) (a b : Ordinal) : Except Error Ordinal := a.or b

/-- The fields that a template prints. -/
def toJson (d : Definition) : Json :=
  .object
    [("name", d.name),
     ("is_bitfield", .bool d.isBitfield),
     ("storage", .string d.storageType),
     ("public_ord", .string d.accessorType),
     ("enumerators", .array (d.enumerators.map fun (name, ordinal) =>
        .object [("name", name), ("value", .int ordinal.value)])),
     ("unset", match d.unset with
        | some zero => .int zero.value
        | none => .null)]

/-- Two definitions agree in every part. -/
def agrees (a b : Definition) : Bool :=
  a.name == b.name && a.enumerators == b.enumerators && a.isBitfield == b.isBitfield &&
    a.unset == b.unset && a.storageType == b.storageType && a.accessorType == b.accessorType

instance : BEq Definition := ⟨agrees⟩

/-- Whether a definition may stand as a key: every name in it may. -/
def isKey (d : Definition) : Bool :=
  d.name.isKey && d.enumerators.all (fun (name, ordinal) => name.isKey && ordinal.isKey) &&
    d.unset.all Ordinal.isKey

end Definition

end EngineBindings.Enum
