/-
  EngineBindings/Log/Notation.lean
  ================================
  **Values in the notation of a conversion.**

  A conversion writes a text, cut at its precision; an integer, with its precision as the
  least number of digits; the double nearest to an integer, positional or with an exponent;
  or a single character.  Everything is brought to the width of the conversion, with blanks
  or, for numbers, with zeros behind the sign.
-/
import EngineBindings.Json.Literal
import EngineBindings.Log.Conversion

namespace EngineBindings.Log

open Json (Binary64)

namespace Conversion

def has (c : Conversion) (flag : Char) : Bool :=
  c.flags.contains flag

/-! ### Layout -/

/-- A row of characters brought to the width, with blanks before it or, under the flag `-`,
    after it. -/
def pad (c : Conversion) (text : List Char) : List Char :=
  let blanks := List.replicate (c.width - text.length) ' '
  if c.has '-' then text ++ blanks else blanks ++ text

/-- The digits of a number behind its lead, brought to the width; under the flag `0`, with
    zeros between the two. -/
def layOut (c : Conversion) (lead digits : List Char) : List Char :=
  if c.has '0' && !c.has '-' then
    lead ++ List.replicate (c.width - (lead ++ digits).length) '0' ++ digits
  else c.pad (lead ++ digits)

/-- The sign of a number: a minus, or what the flags ask for. -/
def sign (c : Conversion) (n : Int) : List Char :=
  if n < 0 then ['-']
  else if c.has '+' then ['+']
  else if c.has ' ' then [' ']
  else []

/-! ### Texts and characters -/

def ofText (c : Conversion) (text : List Char) : List Char :=
  c.pad (match c.precision with
    | some n => text.take n
    | none => text)

/-- A character as it is if it is ASCII, else as an escape. -/
def asciiChar (c : Char) : List Char :=
  if c.toNat < 0x80 then [c]
  else if c.toNat < 0x100 then '\\' :: 'x' :: Text.hexDigits 2 c.toNat
  else if c.toNat < 0x10000 then '\\' :: 'u' :: Text.hexDigits 4 c.toNat
  else '\\' :: 'U' :: Text.hexDigits 8 c.toNat

/-- The character that a value stands for: that of a code point, or the only one of a text. -/
def charOf? : Json → Option Char
  | .int n => if 0 ≤ n ∧ n.toNat.isValidChar then some (Char.ofNat n.toNat) else none
  | .string s => match s.toList with
    | [c] => some c
    | _ => none
  | _ => none

/-! ### Integers -/

/-- An integer in a base, with a mark before its digits under the flag `#`. -/
def ofInteger? (c : Conversion) (base : Nat) (mark : List Char) (n : Int) :
    Option (List Char) :=
  let least := c.precision.getD 0
  if maxLength < least then none
  else
    let digits := Nat.toDigits base n.natAbs
    let zeros := List.replicate (least - digits.length) '0'
    some (c.layOut (c.sign n ++ (if c.has '#' then mark else [])) (zeros ++ digits))

/-! ### Doubles -/

/-- The precision of a double when none is asked for. -/
def standardPrecision : Nat := 6

/-- The digits before and after the point; without any after it, the point stands only under
    the flag `#`. -/
def withPoint (c : Conversion) (front back : List Char) : List Char :=
  if back.isEmpty && !c.has '#' then front else front ++ '.' :: back

/-- The first `count` digits of a natural number, rounded, or all of them if there are no more,
    and the power of ten of the first; a half goes to the even neighbour. -/
def leadingDigits (count n : Nat) : List Char × Nat :=
  let digits := Nat.toDigits 10 n
  if digits.length ≤ count then (digits, digits.length - 1)
  else
    let rounded := Nat.toDigits 10
      (Binary64.roundHalfEven n (Binary64.tenTo (digits.length - count)))
    (rounded.take count, digits.length - 1 + (rounded.length - count))

def fillUp (count : Nat) (digits : List Char) : List Char :=
  digits ++ List.replicate (count - digits.length) '0'

def dropZeros (digits : List Char) : List Char :=
  (digits.reverse.dropWhile (· = '0')).reverse

/-- The power of ten of a number behind its digits, in two digits at least. -/
def exponent (power : Nat) : List Char :=
  let digits := Nat.toDigits 10 power
  'e' :: '+' :: List.replicate (2 - digits.length) '0' ++ digits

/-- A natural number with a row of places after the point. -/
def positional? (c : Conversion) (n : Nat) : Option (List Char) :=
  let places := c.precision.getD standardPrecision
  if maxLength < places then none
  else some (c.withPoint (Nat.toDigits 10 n) (List.replicate places '0'))

/-- A natural number as one digit, a row of places after the point and a power of ten.  The
    greatest precision of all stands for no place. -/
def scientific? (c : Conversion) (n : Nat) : Option (List Char) :=
  let asked := c.precision.getD standardPrecision
  let places := if asked = maxPrecision then 0 else asked
  if maxLength < places then none
  else
    let (digits, power) := leadingDigits (places + 1) n
    some (c.withPoint (digits.take 1) (fillUp places (digits.drop 1)) ++ exponent power)

/-- A natural number with a row of digits: positional if they reach to the point, else with a
    power of ten.  The zeros at the end of a fraction go, unless the flag `#` keeps them. -/
def general? (c : Conversion) (n : Nat) : Option (List Char) :=
  let count := max 1 (c.precision.getD standardPrecision)
  let (digits, power) := leadingDigits count n
  let whole := if power < count then power + 1 else 1
  let ending := if power < count then [] else exponent power
  if c.has '#' then
    if maxLength < count then none
    else
      let fraction := fillUp (count - whole) (digits.drop whole)
      some (c.withPoint (digits.take whole) fraction ++ ending)
  else some (c.withPoint (digits.take whole) (dropZeros (digits.drop whole)) ++ ending)

/-- The double nearest to an integer, its magnitude written as a natural number is; none if
    the integer is beyond the doubles. -/
def ofDouble? (c : Conversion) (write : Nat → Option (List Char)) (n : Int) :
    Option (List Char) := do
  let magnitude ← (Binary64.ofFraction false n.natAbs 1).truncate?
  return c.layOut (c.sign n) (← write magnitude.natAbs)

/-! ### Values -/

/-- A value in the notation of a conversion; none if the notation is not for such values. -/
def ofValue? (c : Conversion) (value : Json) : Option (List Char) :=
  match c.kind, value with
  | 's', value => some (c.ofText value.display.toList)
  | 'r', value => some (c.ofText value.literal.toList)
  | 'a', value => some (c.ofText (value.literal.toList.flatMap asciiChar))
  | 'c', value => (charOf? value).map fun char => c.pad [char]
  | 'd', .int n => c.ofInteger? 10 [] n
  | 'i', .int n => c.ofInteger? 10 [] n
  | 'u', .int n => c.ofInteger? 10 [] n
  | 'o', .int n => c.ofInteger? 8 ['0', 'o'] n
  | 'x', .int n => c.ofInteger? 16 ['0', 'x'] n
  | 'X', .int n => (c.ofInteger? 16 ['0', 'x'] n).map fun text => text.map Char.toUpper
  | 'f', .int n => c.ofDouble? c.positional? n
  | 'F', .int n => c.ofDouble? c.positional? n
  | 'e', .int n => c.ofDouble? c.scientific? n
  | 'E', .int n => (c.ofDouble? c.scientific? n).map fun text => text.map Char.toUpper
  | 'g', .int n => c.ofDouble? c.general? n
  | 'G', .int n => (c.ofDouble? c.general? n).map fun text => text.map Char.toUpper
  | _, _ => none

end Conversion

end EngineBindings.Log
