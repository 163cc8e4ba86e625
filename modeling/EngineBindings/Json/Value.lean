/-
  EngineBindings/Json/Value.lean
  ==============================
  **Documents as values.**

  The engine describes its API in a JSON document, and templates are filled in from values
  of the same shape.  `Json` is such a value: the fields of an object keep the order of the
  document, integers are exact at any size and other numbers are doubles.

  Nothing in a document has a type until it is checked, so the value also answers the three
  questions that are asked of parts of unknown type: whether it counts as empty, what it
  lists when it is walked over, and whether it may stand as a key.
-/
import EngineBindings.Dictionary
import EngineBindings.Json.Binary64

namespace EngineBindings

open Json (Binary64)

inductive Json where
  | null
  | bool (b : Bool)
  | int (n : Int)
  | float (x : Binary64)
  | string (s : String)
  | array (items : List Json)
  | object (fields : List (String × Json))
deriving Inhabited

namespace Json

/-! ### Reading parts -/

def field? (key : String) : Json → Option Json
  | object fields => Dictionary.get? key fields
  | _ => none

/-- Whether a value counts as absent: `null`, `false`, a zero, or an empty text, list or
    object. -/
def isEmpty : Json → Bool
  | null => true
  | bool b => !b
  | int n => n == 0
  | float x => x.isZero
  | string s => s == ""
  | array items => items.isEmpty
  | object fields => fields.isEmpty

/-- What a value lists when it is walked over: a list its items, a text its characters, an
    object its keys. -/
def elements? : Json → Option (List Json)
  | array items => some items
  | string s => some (s.toList.map fun c => string (String.ofList [c]))
  | object fields => some (fields.map fun (key, _) => string key)
  | _ => none

/-- Whether a value may stand as a key: every value but a list and an object. -/
def isKey : Json → Bool
  | array _ => false
  | object _ => false
  | _ => true

/-! ### Agreement -/

/-- Two scalars of one value: numbers and truth values agree when they have one numeric
    value, texts when they are equal. -/
def scalarAgrees : Json → Json → Bool
  | null, null => true
  | string s, string t => s == t
  | float x, float y => x.sameValue y
  | float x, y => (integer? y).any x.equalsInt
  | x, float y => (integer? x).any y.equalsInt
  | x, y => match integer? x, integer? y with
    | some m, some n => m == n
    | _, _ => false
where
  /-- The value of an integer or of a truth value. -/
  integer? : Json → Option Int
    | int n => some n
    | bool b => some (if b then 1 else 0)
    | _ => none

mutual

/-- Whether two values are one key or one name: scalars of one value, lists that agree item
    by item, objects that agree field by field in any order. -/
def agrees : Json → Json → Bool
  | array xs, array ys => agreeItems xs ys
  | object fs, object gs => fs.length == gs.length && agreeFields fs gs
  | x, y => scalarAgrees x y

def agreeItems : List Json → List Json → Bool
  | [], [] => true
  | x :: xs, y :: ys => agrees x y && agreeItems xs ys
  | _, _ => false

/-- Whether every field of the first object agrees with the one of its name in the second. -/
def agreeFields : List (String × Json) → List (String × Json) → Bool
  | [], _ => true
  | (key, x) :: rest, others =>
    (match Dictionary.get? key others with
      | some y => agrees x y
      | none => false) && agreeFields rest others

end

instance : BEq Json := ⟨agrees⟩

theorem string_beq_string (s t : String) : (string s == string t) = (s == t) := by
  show agrees (string s) (string t) = (s == t)
  simp [agrees, scalarAgrees]

/-- Whether a value is the double that is no number, the one value that differs from
    itself. -/
def isNaN : Json → Bool
  | float .nan => true
  | _ => false

end Json

end EngineBindings
