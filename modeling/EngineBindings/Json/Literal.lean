/-
  EngineBindings/Json/Literal.lean
  ================================
  **Values as messages show them.**

  A message that names an offending part of a document shows it whole: texts between quotes,
  lists and objects between brackets with `, ` between their members, and the words `None`,
  `True` and `False` for the three values that are neither.  A template prints a value the
  same way, except that a text by itself stands without quotes.
-/
import EngineBindings.Json.Value
import EngineBindings.Text.Quoted

namespace EngineBindings.Json

open EngineBindings.Text (quoted)

def joined (texts : List String) : String :=
  ", ".intercalate texts

mutual

/-- The text of a value inside a message. -/
def literal : Json → String
  | null => "None"
  | bool b => if b then "True" else "False"
  | int n => toString n
  | float x => x.text
  | string s => quoted s
  | array items => "[" ++ joined (literalItems items) ++ "]"
  | object fields => "\x7b" ++ joined (literalFields fields) ++ "\x7d"

def literalItems : List Json → List String
  | [] => []
  | x :: rest => literal x :: literalItems rest

def literalFields : List (String × Json) → List String
  | [] => []
  | (key, x) :: rest => (quoted key ++ ": " ++ literal x) :: literalFields rest

end

/-- The text of a value that stands by itself. -/
def display : Json → String
  | string s => s
  | x => literal x

/-- The word for the type of a value. -/
def typeWord : Json → String
  | null => "NoneType"
  | bool _ => "bool"
  | int _ => "int"
  | float _ => "float"
  | string _ => "str"
  | array _ => "list"
  | object _ => "dict"

@[simp] theorem display_string (s : String) : display (string s) = s := rfl

end EngineBindings.Json
