/-
  EngineBindings/Enum/Error.lean
  ==============================
  **What can be wrong with an enum.**

  Each cause is a case of its own with the values that it concerns; its wording is one
  function, so a law about a check names the cause and never the text.
-/
import EngineBindings.Json.Literal

namespace EngineBindings.Enum

/-- What an ordinal belongs to: an enumerator or a whole enum, by name. -/
inductive Owner where
  | enumerator (name : Json)
  | enum (name : Json)

/-- What an entry of the document lacks: a field, or the shape to have fields at all. -/
inductive EntryFault where
  | missingField (key : String)
  | wrongShape
deriving DecidableEq, Repr

/-- Why an enum, an ordinal or a combination of ordinals is refused. -/
inductive Error where
  /-- The ordinal is no integer. -/
  | notInteger (owner : Owner) (value : Json)
  /-- The ordinal has no place in 32 bits. -/
  | outOfRange (owner : Owner) (value : Int)
  | emptyEnumeratorName
  | emptyEnumName
  /-- A bitfield declares the constant that every bitfield has. -/
  | reservedName (enum : Json)
  | malformedEntry (entry : Json) (fault : EntryFault)
  /-- A list or an object stands where a key is needed. -/
  | notKey (name : Json)
  /-- A bit operation on an enum that is no bitfield. -/
  | notBitfield (enum : Json)
  /-- A bit operation across two enums. -/
  | differentEnums (left right : Json)
  | unknownConstant (name : Json)

/-- The name of the constant with no bit set, which every bitfield has. -/
def zeroName : String := "UNSET"

namespace Owner

/-- How a message names the owner of an ordinal. -/
def text : Owner → String
  | enumerator name => "enumerator " ++ name.display
  | enum name => "enum " ++ name.display

end Owner

namespace Error

/-- The wording of a cause; the causes without words of their own have none. -/
def message? : Error → Option String
  | notInteger owner value =>
    some (owner.text ++ ": ordinal must be an integer, got " ++ value.literal)
  | outOfRange owner value =>
    some (owner.text ++ ": ordinal " ++ toString value ++ " does not fit in 32-bit storage")
  | emptyEnumeratorName => some "Enumerator name must not be empty"
  | emptyEnumName => some "Enum name must not be empty"
  | reservedName enum =>
    some ("Bitfield " ++ enum.display ++ " declares " ++ zeroName ++
      ", which is reserved for the zero constant")
  | malformedEntry entry (.missingField key) =>
    some ("Malformed enum entry " ++ entry.literal ++ ": " ++ Text.quoted key)
  | malformedEntry entry .wrongShape => some ("Malformed enum entry " ++ entry.literal)
  | notKey _ => none
  | notBitfield enum =>
    some ("'|' is only defined for bitfields, not enum " ++ enum.display)
  | differentEnums left right =>
    some ("Cannot combine " ++ left.display ++ " with " ++ right.display)
  | unknownConstant _ => none

/-- Whether the cause is a fault of the content of an entry, and not of the use of a value. -/
def isReported : Error → Bool
  | notInteger _ _ => true
  | outOfRange _ _ => true
  | emptyEnumeratorName => true
  | emptyEnumName => true
  | reservedName _ => true
  | malformedEntry _ _ => true
  | notKey _ => false
  | notBitfield _ => false
  | differentEnums _ _ => false
  | unknownConstant _ => false

end Error

end EngineBindings.Enum
