/-
  EngineBindings/Json/Binary64.lean
  =================================
  **Numbers with a fraction or an exponent.**

  A document's number that is written with a point or an exponent is the double nearest to
  it.  Doubles are kept as exact values `± mantissa * 2 ^ exponent`, so reading, comparing and
  writing them is arithmetic on natural numbers.

  A double is written with the fewest digits that still name it: every real number closer to
  it than to its neighbours reads back as it, and of the shortest decimals in that interval
  the one nearest to the double is taken.
-/

namespace EngineBindings.Json

/-- A double: `± mantissa * 2 ^ exponent`, an infinity, or no number at all. -/
inductive Binary64 where
  | nan
  | infinite (negative : Bool)
  | finite (negative : Bool) (mantissa : Nat) (exponent : Int)
deriving DecidableEq, Repr

namespace Binary64

/-! ### Powers -/

def twoTo (n : Nat) : Nat := Nat.pow 2 n

def tenTo (n : Nat) : Nat := Nat.pow 10 n

/-! ### Rounding -/

/-- A positive fraction times a power of two. -/
def scale (numerator denominator : Nat) (power : Int) : Nat × Nat :=
  if 0 ≤ power then (numerator * twoTo power.toNat, denominator)
  else (numerator, denominator * twoTo (-power).toNat)

/-- The natural number nearest to a fraction; a half goes to the even neighbour. -/
def roundHalfEven (numerator denominator : Nat) : Nat :=
  let quotient := numerator / denominator
  let twice := 2 * (numerator % denominator)
  if twice < denominator || (twice == denominator && quotient % 2 == 0) then quotient
  else quotient + 1

/-- The exponent that leaves a mantissa of 53 bits for a positive fraction, or the least
    exponent of all. -/
def exponentFor (numerator denominator : Nat) : Int :=
  let guess : Int := (numerator.log2 : Int) - (denominator.log2 : Int) - 52
  let (n, d) := scale numerator denominator (-guess)
  max (if n < d * twoTo 52 then guess - 1 else guess) (-1074)

/-- The double nearest to a positive fraction. -/
def ofFraction (negative : Bool) (numerator denominator : Nat) : Binary64 :=
  let exponent := exponentFor numerator denominator
  let (n, d) := scale numerator denominator (-exponent)
  let mantissa := roundHalfEven n d
  let (mantissa, exponent) :=
    if mantissa = twoTo 53 then (twoTo 52, exponent + 1) else (mantissa, exponent)
  if 971 < exponent then infinite negative else finite negative mantissa exponent

def decimalLength (n : Nat) : Nat :=
  (Nat.toDigits 10 n).length

/-- The double nearest to `± digits * 10 ^ power`. -/
def ofDecimal (negative : Bool) (digits : Nat) (power : Int) : Binary64 :=
  let magnitude := (decimalLength digits : Int) + power
  if digits = 0 || magnitude < -330 then finite negative 0 (-1074)
  else if 310 < magnitude then infinite negative
  else if 0 ≤ power then ofFraction negative (digits * tenTo power.toNat) 1
  else ofFraction negative digits (tenTo (-power).toNat)

/-! ### Comparing -/

def isZero : Binary64 → Bool
  | finite _ mantissa _ => mantissa == 0
  | _ => false

/-- The integer nearest to a double in the direction of zero. -/
def truncate? : Binary64 → Option Int
  | finite negative mantissa exponent =>
    let magnitude : Int :=
      if 0 ≤ exponent then mantissa * twoTo exponent.toNat else mantissa / twoTo (-exponent).toNat
    some (if negative then -magnitude else magnitude)
  | _ => none

def equalsInt (x : Binary64) (n : Int) : Bool :=
  match x with
  | finite negative mantissa exponent =>
    let value : Int := if negative then -mantissa else mantissa
    if 0 ≤ exponent then value * twoTo exponent.toNat == n
    else value == n * twoTo (-exponent).toNat
  | _ => false

/-- Whether two doubles have one value; the two zeros do, and a missing number has the value
    of itself alone. -/
def sameValue (x y : Binary64) : Bool :=
  x == y || (x.isZero && y.isZero)

/-! ### Writing -/

/-- The place of the first digit of a positive `mantissa * 2 ^ exponent`: the power of ten
    below it. -/
def leadingPower (mantissa : Nat) (exponent : Int) : Int :=
  let guess := ((mantissa.log2 : Int) + exponent) * 30103 / 100000
  let reaches (power : Int) : Bool :=
    let (n, d) := scale mantissa 1 exponent
    if 0 ≤ power then tenTo power.toNat * d ≤ n else d ≤ n * tenTo (-power).toNat
  if reaches (guess + 1) then guess + 1 else if reaches guess then guess else guess - 1

/-- The nearest decimal with its last digit at `10 ^ place` inside the interval of a positive
    double, as a multiple of that power.  The interval holds its ends when the mantissa is
    even; below a power of two it is half as wide. -/
def digitsAt? (mantissa : Nat) (exponent place : Int) : Option Nat :=
  let m := mantissa
  let low := if m = twoTo 52 ∧ -1074 < exponent then 4 * m - 1 else 4 * m - 2
  let high := 4 * m + 2
  let (quarterNum, quarterDen) := scale 1 1 (exponent - 2)
  let (unitNum, unitDen) := if 0 ≤ place then (tenTo place.toNat, 1) else (1, tenTo (-place).toNat)
  let quarter := quarterNum * unitDen
  let unit := unitNum * quarterDen
  let inside (digits : Nat) : Bool :=
    if m % 2 = 0 then low * quarter ≤ digits * unit && digits * unit ≤ high * quarter
    else low * quarter < digits * unit && digits * unit < high * quarter
  let value := 4 * m * quarter
  let below := value / unit
  let above := below + 1
  match inside below, inside above with
  | true, false => some below
  | false, true => some above
  | false, false => none
  | true, true =>
    let down := value - below * unit
    let up := above * unit - value
    if down < up || (down == up && below % 2 == 0) then some below else some above

/-- The digits of a positive double and the place of their last: on the first of the grids of
    one, two, ... seventeen digits that has a decimal inside the interval. -/
def shortest (mantissa : Nat) (exponent : Int) : Nat × Int :=
  let lead := leadingPower mantissa exponent
  let grids := (List.range 17).map fun (n : Nat) => lead - (n : Int)
  (grids.findSome? fun place => (digitsAt? mantissa exponent place).map (·, place)).getD (0, 0)

/-- The digits of a decimal without its trailing zeros, and the power of ten of the first. -/
def significant (digits : Nat) (place : Int) : List Char × Int :=
  let all := Nat.toDigits 10 digits
  let kept := (all.reverse.dropWhile (· = '0')).reverse
  (kept, place + (all.length : Int) - 1)

/-- Digits with the point after the first and the power of ten after an `e`, in two digits at
    least. -/
def scientific (digits : List Char) (power : Int) : List Char :=
  let fraction := match digits with
    | first :: [] => [first]
    | first :: rest => first :: '.' :: rest
    | [] => []
  let magnitude := Nat.toDigits 10 power.natAbs
  fraction ++ 'e' :: (if power < 0 then '-' else '+') ::
    (List.replicate (2 - magnitude.length) '0' ++ magnitude)

/-- Digits with the point where it belongs, and a digit on each side of it. -/
def positional (digits : List Char) (power : Int) : List Char :=
  if power < 0 then '0' :: '.' :: (List.replicate (-power - 1).toNat '0' ++ digits)
  else
    let whole := power.toNat + 1
    let front := digits.take whole ++ List.replicate (whole - digits.length) '0'
    match digits.drop whole with
    | [] => front ++ ['.', '0']
    | back => front ++ '.' :: back

/-- The text of a double: positional from `0.0001` up to below `10 ^ 16`, scientific
    elsewhere. -/
def text : Binary64 → String
  | nan => "nan"
  | infinite negative => if negative then "-inf" else "inf"
  | finite negative mantissa exponent =>
    let magnitude :=
      if mantissa = 0 then ['0', '.', '0']
      else
        let (digits, place) := shortest mantissa exponent
        let (kept, power) := significant digits place
        if -4 ≤ power ∧ power < 16 then positional kept power else scientific kept power
    String.ofList (if negative then '-' :: magnitude else magnitude)

end Binary64

end EngineBindings.Json
