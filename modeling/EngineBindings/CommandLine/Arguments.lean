/-
  EngineBindings/CommandLine/Arguments.lean
  =========================================
  **What a command line asks for.**

  The words of a command line are taken from left to right.  A switch that takes a value
  takes the plain word after it; the last value given counts, except that the names to
  resolve and the steps of loudness add up.  Only when every word is taken is it checked that
  nothing is missing and nothing is left.
-/
import EngineBindings.CommandLine.Switch
import EngineBindings.Log.Format

namespace EngineBindings.CommandLine

inductive Value where
  | text (text : String)
  /-- Nothing at all, for which two dashes behind an equals sign stand. -/
  | nothing
deriving DecidableEq, Repr

/-- The value that is written behind an equals sign. -/
def Value.ofAssigned (text : String) : Value :=
  if text = "--" then .nothing else .text text

/-- The text of a value, if there is one and it is not empty. -/
def Value.text? : Value → Option String
  | text s => if s = "" then none else some s
  | nothing => none

/-- What a run is asked to do. -/
structure Arguments where
  /-- The file of the API. -/
  api : Value
  /-- The directory of the modules. -/
  outputDir : Value := .text "generated"
  /-- The directory of the user's templates. -/
  templatesDir : Option Value := none
  /-- The type names to resolve. -/
  resolve : List Value := []
  /-- Write nothing. -/
  dryRun : Bool := false
  verbose : Nat := 0
  quiet : Nat := 0
  logLevel : Option Value := none
  logFormat : Value := .text Log.standardFormat
  logFile : Option Value := none

/-- The level of the log: the one that is named, else the loudness that is asked for. -/
def Arguments.level (arguments : Arguments) : Log.LevelChoice :=
  match arguments.logLevel.bind Value.text? with
  | some name => .named name
  | none =>
    if 1 ≤ arguments.verbose then .number Log.debugLevel
    else if 2 ≤ arguments.quiet then .number Log.errorLevel
    else if arguments.quiet = 1 then .number Log.warningLevel
    else .number Log.infoLevel

/-! ### Taking words -/

/-- Why a command line starts no run. -/
inductive Refusal where
  /-- Help is asked for. -/
  | help
  | usage (error : UsageError)

/-- What has been taken so far: the file of the API if it is known, the other arguments, and
    the words that nobody asked for. -/
structure Draft where
  api : Option Value := none
  arguments : Arguments := { api := .nothing }
  extras : List String := []

namespace Draft

/-- The draft with a switch that stands by itself. -/
def set (draft : Draft) (switch : Switch) : Except Refusal Draft :=
  let arguments := draft.arguments
  match switch with
  | .help => .error .help
  | .dryRun => .ok { draft with arguments := { arguments with dryRun := true } }
  | .verbose =>
    .ok { draft with arguments := { arguments with verbose := arguments.verbose + 1 } }
  | .quiet => .ok { draft with arguments := { arguments with quiet := arguments.quiet + 1 } }
  | _ => .ok draft

/-- The draft with the value of a switch. -/
def setValue (draft : Draft) (switch : Switch) (value : Value) : Except Refusal Draft :=
  let arguments := draft.arguments
  match switch with
  | .api => .ok { draft with api := some value }
  | .outputDir => .ok { draft with arguments := { arguments with outputDir := value } }
  | .templatesDir =>
    .ok { draft with arguments := { arguments with templatesDir := some value } }
  | .resolve =>
    .ok { draft with arguments := { arguments with resolve := arguments.resolve ++ [value] } }
  | .logLevel =>
    match value with
    | .text name =>
      if name ∈ levelChoices then
        .ok { draft with arguments := { arguments with logLevel := some value } }
      else .error (.usage (.unknownLevel name))
    | .nothing => .ok { draft with arguments := { arguments with logLevel := some value } }
  | .logFormat => .ok { draft with arguments := { arguments with logFormat := value } }
  | .logFile => .ok { draft with arguments := { arguments with logFile := some value } }
  | _ => .ok draft

/-- The draft with a word that nobody asked for. -/
def setAside (draft : Draft) (text : String) : Draft :=
  { draft with extras := draft.extras ++ [text] }

end Draft

/-- The switches that are run together: one, and the short ones of the characters after
    it. -/
def runTogether (switch : Switch) : List Char → Except UsageError (List Switch)
  | [] => .ok [switch]
  | c :: rest =>
    match Switch.ofSpelling? (String.ofList ['-', c]) with
    | some next => (runTogether next rest).map (switch :: ·)
    | none => .error (.ignoredValue switch (String.ofList (c :: rest)))

/-- The switches that a spelling with a value stands for, when the switch takes no value: a
    short spelling may have others run together with it. -/
def switchesOf (switch : Switch) (spelling value : String) : Except UsageError (List Switch) :=
  if value = "" || (Text.after? "--" spelling).isSome then .error (.ignoredValue switch value)
  else runTogether switch value.toList

/-- The draft after the words that are left. -/
def takeWords (draft : Draft) : List Word → Except Refusal Draft
  | [] => .ok draft
  | .plain text :: rest => takeWords (draft.setAside text) rest
  | .unknown text :: rest => takeWords (draft.setAside text) rest
  | .switch switch spelling (some value) :: rest =>
    if switch.takesValue then do
      takeWords (← draft.setValue switch (.ofAssigned value)) rest
    else do
      let switches ← (switchesOf switch spelling value).mapError .usage
      takeWords (← switches.foldlM Draft.set draft) rest
  | .switch switch _ none :: .plain text :: rest =>
    if switch.takesValue then do takeWords (← draft.setValue switch (.text text)) rest
    else do takeWords ((← draft.set switch).setAside text) rest
  | .switch switch _ none :: rest =>
    if switch.takesValue then .error (.usage (.missingValue switch))
    else do takeWords (← draft.set switch) rest

/-- What the arguments of a command line ask for. -/
def parse (arguments : List String) : Except Refusal Arguments := do
  let (words, left) ← (words arguments).mapError .usage
  let draft ← takeWords {} words
  match draft.api with
  | none => throw (.usage .missingApi)
  | some api =>
    match draft.extras ++ left with
    | [] => return { draft.arguments with api }
    | extras => throw (.usage (.unrecognized extras))

end EngineBindings.CommandLine
