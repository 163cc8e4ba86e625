/-
  EngineBindings/Log/Level.lean
  =============================
  **Levels of log records.**

  A level is a number, and a few numbers have names.  A level may be asked for by number or
  by name in any case; a name that no level has asks for the standard level.
-/
import EngineBindings.Dictionary
import EngineBindings.Failure

namespace EngineBindings.Log

/-- The levels with names; the first name of a number is the one that lines show. -/
def levelNames : Dictionary String Int :=
  [("CRITICAL", 50), ("FATAL", 50), ("ERROR", 40), ("WARNING", 30), ("WARN", 30), ("INFO", 20),
   ("DEBUG", 10), ("NOTSET", 0)]

/-- The level of errors that a run survives. -/
def errorLevel : Int := 40

/-- The level of things that may be wrong. -/
def warningLevel : Int := 30

/-- The level of what a run tells by default. -/
def infoLevel : Int := 20

/-- The level of what only a close look asks for. -/
def debugLevel : Int := 10

def levelName (level : Int) : String :=
  match levelNames.find? fun (_, n) => n == level with
  | some (name, _) => name
  | none => "Level " ++ toString level

/-! ### Capitals -/

/-- The letters beyond ASCII whose capitals are ASCII letters. -/
def asciiCapitals : Dictionary Char String :=
  [('ß', "SS"), ('ı', "I"), ('ſ', "S"), ('\ufb00', "FF"), ('\ufb01', "FI"), ('\ufb02', "FL"),
   ('\ufb03', "FFI"), ('\ufb04', "FFL"), ('\ufb05', "ST"), ('\ufb06', "ST")]

/-- The capitals of a letter, as far as the names of levels need them. -/
def capitals (c : Char) : List Char :=
  match Dictionary.get? c asciiCapitals with
  | some letters => letters.toList
  | none => [c.toUpper]

/-! ### Asking for a level -/

/-- The name of the standard format, which is a text and not a level. -/
def formatName : String := "BASIC_FORMAT"

/-- The name of the table of styles, which is neither a number nor a text. -/
def stylesName : String := "_STYLES"

/-- How a level is asked for. -/
inductive LevelChoice where
  | standard
  | number (level : Int)
  | named (name : String)

def LevelChoice.resolve : LevelChoice → Except Failure Int
  | standard => .ok infoLevel
  | number level => .ok level
  | named name =>
    let name := String.ofList (name.toList.flatMap capitals)
    if name = formatName then .error (.notLevel name)
    else if name = stylesName then .error (.wrongLevelType name)
    else .ok ((Dictionary.get? name levelNames).getD infoLevel)

end EngineBindings.Log
