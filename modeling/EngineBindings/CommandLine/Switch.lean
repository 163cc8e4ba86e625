/-
  EngineBindings/CommandLine/Switch.lean
  ======================================
  **The switches of the command line.**

  A switch has a long spelling and perhaps a short one, and either takes a value or stands by
  itself.  A long spelling may be cut short as long as no other switch begins the same way,
  and short spellings without values may be run together.
-/
import EngineBindings.Text.Affix
import EngineBindings.Text.Digit
import EngineBindings.Text.Quoted

namespace EngineBindings.CommandLine

inductive Switch where
  | help
  | api
  | outputDir
  | templatesDir
  | resolve
  | dryRun
  | verbose
  | quiet
  | logLevel
  | logFormat
  | logFile
deriving DecidableEq, Repr

namespace Switch

/-- The spellings of all switches, in the order in which messages list them. -/
def spellings : List (String × Switch) :=
  [("-h", help), ("--help", help), ("--api", api), ("--output-dir", outputDir),
   ("--templates-dir", templatesDir), ("--resolve", resolve), ("--dry-run", dryRun),
   ("-v", verbose), ("--verbose", verbose), ("-q", quiet), ("--quiet", quiet),
   ("--log-level", logLevel), ("--log-format", logFormat), ("--log-file", logFile)]

def ofSpelling? (spelling : String) : Option Switch :=
  (spellings.find? fun (s, _) => s = spelling).map Prod.snd

/-- How a message names a switch: by all its spellings. -/
def shown (switch : Switch) : String :=
  "/".intercalate ((spellings.filter fun (_, s) => s = switch).map Prod.fst)

def takesValue : Switch → Bool
  | help => false
  | dryRun => false
  | verbose => false
  | quiet => false
  | _ => true

end Switch

/-! ### Errors of use -/

/-- Why a command line is refused. -/
inductive UsageError where
  /-- An argument begins the spellings of several switches. -/
  | ambiguous (argument : String) (candidates : List String)
  | missingValue (switch : Switch)
  /-- A switch that stands by itself is given a value. -/
  | ignoredValue (switch : Switch) (value : String)
  | unknownLevel (value : String)
  | missingApi
  | unrecognized (arguments : List String)

/-- The values that the level of the log may have. -/
def levelChoices : List String :=
  ["CRITICAL", "ERROR", "WARNING", "INFO", "DEBUG", "critical", "error", "warning", "info",
   "debug"]

namespace UsageError

def about (switch : Switch) (message : String) : String :=
  "argument " ++ switch.shown ++ ": " ++ message

/-- The wording of an error of use. -/
def message : UsageError → String
  | ambiguous argument candidates =>
    "ambiguous option: " ++ argument ++ " could match " ++ ", ".intercalate candidates
  | missingValue switch => about switch "expected one argument"
  | ignoredValue switch value =>
    about switch ("ignored explicit argument " ++ Text.quoted value)
  | unknownLevel value =>
    about .logLevel ("invalid choice: " ++ Text.quoted value ++ " (choose from " ++
      ", ".intercalate (levelChoices.map Text.quoted) ++ ")")
  | missingApi => "the following arguments are required: " ++ Switch.api.shown
  | unrecognized arguments => "unrecognized arguments: " ++ " ".intercalate arguments

/-- The name that messages of this program begin with. -/
def programName : String := "godot-codegen"

/-- The text that tells of an error of use. -/
def text (e : UsageError) : String :=
  programName ++ ": error: " ++ e.message

end UsageError

/-! ### Words -/

/-- What an argument is, seen by itself. -/
inductive Word where
  /-- A value, or an argument that nobody asked for. -/
  | plain (text : String)
  /-- A switch, how it was spelled, and the value that came with it. -/
  | switch (switch : Switch) (spelling : String) (value : Option String)
  /-- An argument that looks like a switch and is none. -/
  | unknown (text : String)

/-- Whether an argument reads as a negative number, which is a value. -/
def isNegativeNumber (argument : String) : Bool :=
  match argument.toList with
  | '-' :: cs =>
    let cs := if cs.getLast? = some '\n' then cs.dropLast else cs
    let whole := cs.takeWhile Text.isDecimal
    match cs.dropWhile Text.isDecimal with
    | [] => !whole.isEmpty
    | '.' :: fraction => !fraction.isEmpty && fraction.all Text.isDecimal
    | _ => false
  | _ => false

/-- The switches that an argument may stand for: those that a long argument begins, or the
    short one at its start. -/
def candidates (argument : String) : List (String × Switch × Option String) :=
  match argument.toList with
  | '-' :: '-' :: _ =>
    let (start, value) := match Text.cut? '=' argument with
      | some (start, value) => (start, some value)
      | none => (argument, none)
    (Switch.spellings.filter fun (s, _) => (Text.after? start s).isSome).map
      fun (s, switch) => (s, switch, value)
  | '-' :: c :: rest =>
    Switch.spellings.filterMap fun (s, switch) =>
      if s.toList = ['-', c] then some (s, switch, some (String.ofList rest))
      else if (Text.after? argument s).isSome then some (s, switch, none)
      else none
  | _ => []

/-- The word of an argument that starts with a dash and is no whole spelling. -/
def dashedWord (argument : String) : Except UsageError Word :=
  match candidates argument with
  | [(spelling, switch, value)] => .ok (.switch switch spelling value)
  | [] =>
    if isNegativeNumber argument || argument.toList.contains ' ' then .ok (.plain argument)
    else .ok (.unknown argument)
  | several => .error (.ambiguous argument (several.map Prod.fst))

def word (argument : String) : Except UsageError Word :=
  if argument.toList.head? ≠ some '-' then .ok (.plain argument)
  else
    match Switch.ofSpelling? argument with
    | some switch => .ok (.switch switch argument none)
    | none =>
      if argument = "-" then .ok (.plain argument)
      else
        match Text.cut? '=' argument with
        | none => dashedWord argument
        | some (start, value) =>
          match Switch.ofSpelling? start with
          | some switch => .ok (.switch switch start (some value))
          | none => dashedWord argument

/-- The words of a command line up to the argument `--`, and the arguments from there on. -/
def words : List String → Except UsageError (List Word × List String)
  | [] => .ok ([], [])
  | argument :: rest =>
    if argument = "--" then .ok ([], argument :: rest)
    else do
      let first ← word argument
      let (others, left) ← words rest
      return (first :: others, left)

end EngineBindings.CommandLine
