/-
  EngineBindings/Enum/Ordinal.lean
  ================================
  **Values of generated enums.**

  A generated enum is a wrapper over a signed 32-bit number, its ordinal.  An `Ordinal` is
  such a value: the name of its enum, the number, and whether the enum is a bitfield.  The
  values of one bitfield combine bit by bit.

  Numbers are integers of any size and `bitOr` combines their unlimited two's complements;
  the range is checked whenever a value is made, and kept in the value.
-/
import EngineBindings.Enum.Error

namespace EngineBindings.Enum

/-! ### Bits of integers -/

/-- The bitwise OR of two integers in two's complement of unlimited width.  The complement
    of `n` is `-n - 1`, so an OR with a negative number is a complement of an AND. -/
def bitOr : Int → Int → Int
  | .ofNat m, .ofNat n => .ofNat (m ||| n)
  | .ofNat m, .negSucc n => .negSucc (n ^^^ (n &&& m))
  | .negSucc m, .ofNat n => .negSucc (m ^^^ (m &&& n))
  | .negSucc m, .negSucc n => .negSucc (m &&& n)

/-! ### Storage -/

/-- Whether a number has a place in signed 32-bit storage. -/
def Fits (n : Int) : Prop := -2147483648 ≤ n ∧ n ≤ 2147483647

instance (n : Int) : Decidable (Fits n) := inferInstanceAs (Decidable (_ ∧ _))

/-- A part of a document read as the ordinal of its owner. -/
def checkOrdinal (owner : Owner) : Json → Except Error { n : Int // Fits n }
  | .int n => if h : Fits n then .ok ⟨n, h⟩ else .error (.outOfRange owner n)
  | value => .error (.notInteger owner value)

/-! ### Values -/

/-- A value of a generated enum. -/
structure Ordinal where
  enum : Json
  value : Int
  isBitfield : Bool
  fits : Fits value

namespace Ordinal

/-- The value of an enum with a number taken from a document. -/
def make (enum : Json) (value : Json) (isBitfield : Bool) : Except Error Ordinal := do
  let ⟨n, fits⟩ ← checkOrdinal (.enum enum) value
  pure ⟨enum, n, isBitfield, fits⟩

/-- The constant of a bitfield with no bit set. -/
def unset (enum : Json) : Ordinal :=
  ⟨enum, 0, true, by decide⟩

/-- Two values are one value of one enum. -/
def agrees (a b : Ordinal) : Bool :=
  a.enum == b.enum && a.value == b.value && a.isBitfield == b.isBitfield

instance : BEq Ordinal := ⟨agrees⟩

/-- Whether an ordinal may stand as a key: the name of its enum may. -/
def isKey (o : Ordinal) : Bool := o.enum.isKey

/-- The value with the bits of both: of two bitfields, and of one enum. -/
def or (a b : Ordinal) : Except Error Ordinal :=
  if !(a.isBitfield && b.isBitfield) then .error (.notBitfield a.enum)
  else if !(a.enum == b.enum) || a.enum.isNaN then .error (.differentEnums a.enum b.enum)
  else make a.enum (.int (bitOr a.value b.value)) true

end Ordinal

end EngineBindings.Enum
