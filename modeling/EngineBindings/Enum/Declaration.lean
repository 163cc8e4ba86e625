/-
  EngineBindings/Enum/Declaration.lean
  ====================================
  **Enums as the API declares them.**

  An entry of the document declares an enum by its name, its enumerators in order and
  whether it is a bitfield.  Ordinals need not be distinct: an enum may name one number
  twice.  Nothing is dropped or reordered on the way from the entry to the declaration.
-/
import EngineBindings.Enum.Ordinal

namespace EngineBindings.Enum

/-! ### Enumerators -/

/-- An enumerator: a name and an ordinal. -/
structure Enumerator where
  name : Json
  value : Int
  fits : Fits value

namespace Enumerator

/-- The enumerator of a name and an ordinal taken from a document. -/
def make (name value : Json) : Except Error Enumerator := do
  if name.isEmpty then throw .emptyEnumeratorName
  let ⟨n, fits⟩ ← checkOrdinal (.enumerator name) value
  pure ⟨name, n, fits⟩

end Enumerator

/-! ### Declarations -/

/-- An enum or bitfield with its enumerators in order. -/
structure Declaration where
  name : Json
  values : List Enumerator
  isBitfield : Bool

namespace Declaration

/-- The declaration of a name, enumerators and a kind: the name is not empty, and a bitfield
    leaves the name of its zero constant free. -/
def make (name : Json) (values : List Enumerator) (isBitfield : Bool) :
    Except Error Declaration :=
  if name.isEmpty then .error .emptyEnumName
  else if isBitfield && values.any (fun v => v.name == .string zeroName) then
    .error (.reservedName name)
  else .ok ⟨name, values, isBitfield⟩

/-- A field that an entry has to have. -/
def requireField (key : String) : Json → Except EntryFault Json
  | .object fields =>
    match Dictionary.get? key fields with
    | some value => .ok value
    | none => .error (.missingField key)
  | _ => .error .wrongShape

/-- The enumerator of an item of the list of values of `entry`. -/
def readEnumerator (entry item : Json) : Except Error Enumerator := do
  let name ← (requireField "name" item).mapError (.malformedEntry entry)
  let value ← (requireField "value" item).mapError (.malformedEntry entry)
  Enumerator.make name value

/-- The declaration of an entry of the document. -/
def ofJson (entry : Json) : Except Error Declaration := do
  let name ← (requireField "name" entry).mapError (.malformedEntry entry)
  let items ← match ((entry.field? "values").getD (.array [])).elements? with
    | some items => pure items
    | none => throw (.malformedEntry entry .wrongShape)
  let values ← items.mapM (readEnumerator entry)
  make name values (!((entry.field? "is_bitfield").getD (.bool false)).isEmpty)

end Declaration

end EngineBindings.Enum
