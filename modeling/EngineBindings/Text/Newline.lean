/-
  EngineBindings/Text/Newline.lean
  ================================
  **Unix line endings.**

  Generated files end their lines with a line feed alone, so that the same definitions give
  the same bytes everywhere.  `unixNewlines` first joins each carriage return with the
  line feed after it and then turns the lone ones; `scanNewlines` does both in one pass from
  left to right.
-/

namespace EngineBindings.Text

/-- Every carriage return that a line feed follows is dropped. -/
def joinPairs : List Char → List Char
  | [] => []
  | '\r' :: '\n' :: rest => '\n' :: joinPairs rest
  | c :: rest => c :: joinPairs rest

/-- Every carriage return becomes a line feed. -/
def turnReturns (cs : List Char) : List Char :=
  cs.map fun c => if c = '\r' then '\n' else c

/-- The text with `\r\n` and every other `\r` written as `\n`. -/
def unixNewlines (text : String) : String :=
  String.ofList (turnReturns (joinPairs text.toList))

/-- One pass: a carriage return with its line feed, or alone, gives one line feed. -/
def scanNewlines : List Char → List Char
  | [] => []
  | '\r' :: '\n' :: rest => '\n' :: scanNewlines rest
  | '\r' :: rest => '\n' :: scanNewlines rest
  | c :: rest => c :: scanNewlines rest

end EngineBindings.Text
