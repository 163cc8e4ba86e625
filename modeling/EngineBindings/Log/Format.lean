/-
  EngineBindings/Log/Format.lean
  ==============================
  **How a record becomes a line.**

  A format is a text with conversions in it.  It has to name a field somewhere.  Beyond that
  it is only read when a record comes: a conversion that cannot be carried out leaves the
  record without a line.

  A conversion without the name of a field is for the record as a whole, and only the first
  conversion of a format can take that.
-/
import EngineBindings.Log.Notation
import EngineBindings.Log.Record

namespace EngineBindings.Log

/-! ### Formats -/

/-- A format; one whose text cannot be taken apart has no pieces. -/
structure Format where
  pieces : Option (List Piece)

def Format.ofText (text : String) : Except Failure Format :=
  if namesField text.toList then .ok ⟨pieces? text.toList⟩ else .error .formatWithoutField

def standardFormat : String := "%(levelname)s: %(message)s"

/-- The format that shows the message alone. -/
def messageFormat : Format := ⟨pieces? "%(message)s".toList⟩

/-! ### Fields -/

/-- The name that a line shows for a logger. -/
def shownLogger (logger : String) : String :=
  if logger = "" then "root" else logger

/-- The value of a field of a record. -/
def Record.field? (record : Record) (key : List Char) : Option Json :=
  if key = "levelname".toList then some (.string (levelName record.level))
  else if key = "levelno".toList then some (.int record.level)
  else if key = "name".toList then some (.string (shownLogger record.logger))
  else if key = "message".toList then some (.string record.message)
  else none

/-- The text of a record as a whole, up to where it goes on with things that no run repeats. -/
def Record.whole (record : Record) : String :=
  "\x7b'name': " ++ Text.quoted (shownLogger record.logger) ++ ", 'msg': " ++
    Text.quoted record.message ++ ", 'args': (), 'levelname': " ++
    Text.quoted (levelName record.level) ++ ", 'levelno': " ++ toString record.level ++ ", "

/-! ### Texts -/

/-- A record as a whole in the notation of a conversion. -/
def Conversion.ofWhole? (c : Conversion) (record : Record) : Option (List Char) :=
  match c.kind with
  | 's' => some (c.ofText record.whole.toList)
  | 'r' => some (c.ofText record.whole.toList)
  | 'a' => some (c.ofText (record.whole.toList.flatMap Conversion.asciiChar))
  | _ => none

/-- What stands for a conversion in the line of a record; `first` says whether no conversion
    was before it. -/
def Conversion.text? (c : Conversion) (record : Record) (first : Bool) : Option (List Char) :=
  match c.key with
  | some key => (record.field? key).bind c.ofValue?
  | none => if first then c.ofWhole? record else none

/-- What stands for a row of pieces in the line of a record. -/
def textOfPieces? (record : Record) : Bool → List Piece → Option (List Char)
  | _, [] => some []
  | first, .char c :: rest => (textOfPieces? record first rest).map (c :: ·)
  | first, .conversion c :: rest => do
    return (← c.text? record first) ++ (← textOfPieces? record false rest)

def Format.text? (format : Format) (record : Record) : Option (List Char) :=
  format.pieces.bind (textOfPieces? record true)

/-! ### Lines -/

/-- The line of a record: its text, the failure that it tells of on a line of its own, and a
    line end. -/
def Format.line? (format : Format) (describe : Failure → String) (record : Record) :
    Option String := do
  let text ← format.text? record
  match record.failure with
  | none => return String.ofList text ++ "\n"
  | some failure =>
    let gap := if text.getLast? = some '\n' then "" else "\n"
    return String.ofList text ++ gap ++ describe failure ++ "\n"

end EngineBindings.Log
