/-
  EngineBindings/Json/Token.lean
  ==============================
  **The tokens of a JSON text.**

  A token is recognised one character at a time.  `Scan` holds the part of a token that has
  been read; `Scan.step` takes the next character and gives the tokens that it completes,
  so no character is looked at twice and a text of any length is read in one walk.

  The grammar is JSON with the three words `NaN`, `Infinity` and `-Infinity`; blanks are the
  space, the tab and the two line ends.  A pair of surrogate escapes names one character, and
  a surrogate without its partner the replacement character.
-/
import EngineBindings.Json.Value

namespace EngineBindings.Json

/-! ### Tokens -/

/-- A mark, or a value that is neither a list nor an object. -/
inductive Token where
  | openList
  | closeList
  | openObject
  | closeObject
  | colon
  | comma
  | scalar (value : Json)
  /-- An integer of more digits than a document may hold. -/
  | longInteger
  | malformed
deriving Inhabited

/-! ### Numbers -/

/-- How much of a number has been read. -/
inductive NumberPart where
  | sign
  | zero
  | integer
  | point
  | fraction
  | mark
  | markSign
  | exponent
deriving DecidableEq

/-- The part of a number that a further character belongs to. -/
def NumberPart.next? : NumberPart → Char → Option NumberPart
  | sign, c => if c = '0' then some zero else if c.isDigit then some integer else none
  | zero, c => fromInteger c
  | integer, c => if c.isDigit then some integer else fromInteger c
  | point, c => if c.isDigit then some fraction else none
  | fraction, c => if c.isDigit then some fraction else toMark c
  | mark, c =>
    if c = '+' || c = '-' then some markSign else if c.isDigit then some exponent else none
  | markSign, c => if c.isDigit then some exponent else none
  | exponent, c => if c.isDigit then some exponent else none
where
  /-- After the last digit of the integer. -/
  fromInteger (c : Char) : Option NumberPart := if c = '.' then some point else toMark c
  /-- After the last digit of the fraction. -/
  toMark (c : Char) : Option NumberPart := if c = 'e' || c = 'E' then some mark else none

def digitsValue (cs : List Char) : Nat :=
  cs.foldl (fun n c => 10 * n + (c.toNat - '0'.toNat)) 0

/-- The most digits that an integer of a document may have. -/
def maxIntegerDigits : Nat := 4300

/-- The number with a point or an exponent that is written by `digits`, the fraction behind
    the point and the exponent behind the mark. -/
def decimalNumber (negative : Bool) (cs : List Char) : Json :=
  let whole := cs.takeWhile Char.isDigit
  let rest := cs.drop whole.length
  let (fraction, rest) := match rest with
    | '.' :: rest => (rest.takeWhile Char.isDigit, rest.dropWhile Char.isDigit)
    | rest => ([], rest)
  let power : Int := match rest with
    | _ :: '-' :: digits => -(digitsValue digits : Int)
    | _ :: '+' :: digits => digitsValue digits
    | _ :: digits => digitsValue digits
    | [] => 0
  float (Binary64.ofDecimal negative (digitsValue (whole ++ fraction)) (power - fraction.length))

def integerToken (negative : Bool) (digits : List Char) : Token :=
  if maxIntegerDigits < digits.length then .longInteger
  else
    let n : Int := digitsValue digits
    .scalar (int (if negative then -n else n))

/-- The tokens of a number whose characters end in `part`.  One that breaks off is the number
    before its point or mark, and something malformed. -/
def numberTokens (part : NumberPart) (cs : List Char) : List Token :=
  let (negative, magnitude) := match cs with
    | '-' :: rest => (true, rest)
    | rest => (false, rest)
  let whole := integerToken negative (magnitude.takeWhile Char.isDigit)
  match part with
  | .zero | .integer => [whole]
  | .fraction | .exponent => [.scalar (decimalNumber negative magnitude)]
  | .sign => [.malformed]
  | .point => [whole, .malformed]
  | .mark | .markSign => if '.' ∈ magnitude then [.malformed] else [whole, .malformed]

def wordToken (cs : List Char) : Token :=
  if cs = "null".toList then .scalar null
  else if cs = "true".toList then .scalar (bool true)
  else if cs = "false".toList then .scalar (bool false)
  else if cs = "NaN".toList then .scalar (float .nan)
  else if cs = "Infinity".toList then .scalar (float (.infinite false))
  else if cs = "-Infinity".toList then .scalar (float (.infinite true))
  else .malformed

/-! ### Texts -/

/-- The character of a code point; a lone surrogate has none and becomes the replacement
    character. -/
def codePoint (n : Nat) : Char :=
  if 0xD800 ≤ n && n < 0xE000 then Char.ofNat 0xFFFD else Char.ofNat n

/-- The characters of a row of code units, each high surrogate joined with the low one after
    it. -/
def joinSurrogates : List Nat → List Char
  | high :: low :: rest =>
    if 0xD800 ≤ high && high < 0xDC00 && 0xDC00 ≤ low && low < 0xE000 then
      Char.ofNat (0x10000 + (high - 0xD800) * 0x400 + (low - 0xDC00)) :: joinSurrogates rest
    else codePoint high :: joinSurrogates (low :: rest)
  | [n] => [codePoint n]
  | [] => []

def escaped? : Char → Option Char
  | '"' => some '"'
  | '\\' => some '\\'
  | '/' => some '/'
  | 'b' => some '\x08'
  | 'f' => some '\x0c'
  | 'n' => some '\n'
  | 'r' => some '\r'
  | 't' => some '\t'
  | _ => none

def hexValue? (c : Char) : Option Nat :=
  if '0' ≤ c && c ≤ '9' then some (c.toNat - '0'.toNat)
  else if 'a' ≤ c && c ≤ 'f' then some (c.toNat - 'a'.toNat + 10)
  else if 'A' ≤ c && c ≤ 'F' then some (c.toNat - 'A'.toNat + 10)
  else none

/-! ### Scanning -/

/-- What has been read of the token at hand, last character first. -/
inductive Scan where
  | between
  | word (letters : List Char)
  | number (part : NumberPart) (digits : List Char)
  | text (units : List Nat)
  | escape (units : List Nat)
  | unicode (units : List Nat) (missing value : Nat)

namespace Scan

/-- The start of a token, or a whole one. -/
def start (c : Char) : List Token × Scan :=
  if c = ' ' || c = '\t' || c = '\n' || c = '\r' then ([], between)
  else if c = '[' then ([.openList], between)
  else if c = ']' then ([.closeList], between)
  else if c = '\x7b' then ([.openObject], between)
  else if c = '\x7d' then ([.closeObject], between)
  else if c = ':' then ([.colon], between)
  else if c = ',' then ([.comma], between)
  else if c = '"' then ([], text [])
  else if c = '-' then ([], number .sign ['-'])
  else if c = '0' then ([], number .zero ['0'])
  else if c.isDigit then ([], number .integer [c])
  else if c.isAlpha then ([], word [c])
  else ([.malformed], between)

/-- The tokens that one more character completes, and what is read of the next. -/
def step : Scan → Char → List Token × Scan
  | between, c => start c
  | word letters, c =>
    if c.isAlpha then ([], word (c :: letters))
    else
      let (tokens, scan) := start c
      (wordToken letters.reverse :: tokens, scan)
  | number part digits, c =>
    match part.next? c with
    | some part => ([], number part (c :: digits))
    | none =>
      if part = .sign && c = 'I' then ([], word (c :: digits))
      else
        let (tokens, scan) := start c
        (numberTokens part digits.reverse ++ tokens, scan)
  | text units, c =>
    if c = '"' then ([.scalar (string (String.ofList (joinSurrogates units.reverse)))], between)
    else if c = '\\' then ([], escape units)
    else if c.toNat < 0x20 then ([.malformed], between)
    else ([], text (c.toNat :: units))
  | escape units, c =>
    if c = 'u' then ([], unicode units 4 0)
    else match escaped? c with
      | some e => ([], text (e.toNat :: units))
      | none => ([.malformed], between)
  | unicode units missing value, c =>
    match hexValue? c with
    | none => ([.malformed], between)
    | some digit =>
      let value := 16 * value + digit
      if missing ≤ 1 then ([], text (value :: units)) else ([], unicode units (missing - 1) value)

/-- The tokens that the end of the text completes. -/
def finish : Scan → List Token
  | between => []
  | word letters => [wordToken letters.reverse]
  | number part digits => numberTokens part digits.reverse
  | _ => [.malformed]

end Scan

end EngineBindings.Json
