/-
  EngineBindings/Proofs/Log/Pattern.lean
  ======================================
  **Formats of fields and plain characters.**

  Most formats are rows of characters and of fields, each field as it is.  Such a format is read
  back piece by piece (`pieces?_spelled`), and its line puts every field in its place and leaves
  the other characters as they are (`line?_of_pattern`), whatever the record.
-/
import EngineBindings.Log.Format
import EngineBindings.Proofs.Text.Affix

namespace EngineBindings.Log

/-! ### Patterns -/

inductive Field where
  | levelName
  | levelNumber
  | logger
  | message
deriving DecidableEq, Repr

def Field.key : Field → List Char
  | levelName => "levelname".toList
  | levelNumber => "levelno".toList
  | logger => "name".toList
  | message => "message".toList

def Field.shown (record : Record) : Field → String
  | levelName => Log.levelName record.level
  | levelNumber => toString record.level
  | logger => shownLogger record.logger
  | message => record.message

/-- A part of a format that shows fields as they are. -/
inductive Element where
  | char (c : Char)
  | field (field : Field)
deriving DecidableEq, Repr

def Element.spelled : Element → List Char
  | char c => if c = '%' then ['%', '%'] else [c]
  | field f => '%' :: '(' :: (f.key ++ [')', 's'])

def Element.shown (record : Record) : Element → List Char
  | char c => [c]
  | field f => (f.shown record).toList

abbrev Pattern := List Element

def Pattern.format (pattern : Pattern) : String :=
  String.ofList (pattern.flatMap Element.spelled)

def Pattern.text (pattern : Pattern) (record : Record) : List Char :=
  pattern.flatMap (Element.shown record)

/-- The pattern of the format that is used when none is asked for. -/
def standardPattern : Pattern :=
  [.field .levelName, .char ':', .char ' ', .field .message]

theorem format_standardPattern : standardPattern.format = standardFormat := by
  decide

def messagePattern : Pattern := [.field .message]

/-! ### Pieces -/

def Field.conversion (f : Field) : Conversion :=
  ⟨some f.key, [], 0, none, 's'⟩

def Element.piece : Element → Piece
  | char c => .char c
  | field f => .conversion f.conversion

theorem takeConversion?_field (f : Field) (rest : List Char) :
    takeConversion? ('(' :: (f.key ++ ')' :: 's' :: rest)) = some (f.conversion, rest) := by
  have hplain : ')' ∉ f.key := by
    cases f <;> decide
  have hkey : takeKey? ('(' :: (f.key ++ ')' :: 's' :: rest)) = some (some f.key, 's' :: rest) := by
    rw [takeKey?, Text.cutChars?_append _ hplain]
    rfl
  have hflags : List.dropWhile isFlag ('s' :: rest) = 's' :: rest := rfl
  have hdigits : takeSize ('s' :: rest) = (0, 's' :: rest) := rfl
  unfold takeConversion?
  rw [hkey]
  dsimp only
  rw [hflags, hdigits]
  rfl

theorem takePiece?_field (f : Field) (rest : List Char) :
    takePiece? ('(' :: (f.key ++ ')' :: 's' :: rest)) =
      some (.conversion f.conversion, rest) := by
  rw [takePiece?, takeConversion?_field]
  · rfl
  · intro tail htail
    exact absurd (List.cons.inj htail).1 (by decide)

theorem pieces?_percent {after rest : List Char} {piece : Piece}
    (hpiece : takePiece? rest = some (piece, after)) :
    pieces? ('%' :: rest) = (pieces? after).map (piece :: ·) := by
  rw [pieces?, if_pos rfl]
  split
  · rename_i piece' after' hpiece'
    rw [hpiece] at hpiece'
    cases hpiece'
    rfl
  · rename_i hnone
    rw [hpiece] at hnone
    cases hnone

theorem pieces?_element (element : Element) (rest : List Char) :
    pieces? (element.spelled ++ rest) = (pieces? rest).map (element.piece :: ·) := by
  cases element with
  | char c =>
    rw [Element.spelled]
    split
    · rename_i hpercent
      subst hpercent
      exact pieces?_percent rfl
    · rename_i hplain
      rw [List.singleton_append, pieces?, if_neg hplain]
      rfl
  | field f =>
    rw [Element.spelled, List.cons_append, List.cons_append, List.append_assoc]
    exact pieces?_percent (takePiece?_field f rest)

/-- A pattern is read back from its text. -/
theorem pieces?_spelled (pattern : Pattern) :
    pieces? (pattern.flatMap Element.spelled) = some (pattern.map Element.piece) := by
  induction pattern with
  | nil => rw [List.flatMap_nil, pieces?, List.map_nil]
  | cons element rest ih =>
    rw [List.flatMap_cons, pieces?_element, ih]
    rfl

/-! ### Lines -/

theorem ofValue?_field (f : Field) (record : Record) :
    (record.field? f.key).bind f.conversion.ofValue? = some (f.shown record).toList := by
  have hpad : ∀ text : List Char, f.conversion.pad text = text := by
    intro text
    simp [Conversion.pad, Conversion.has, Field.conversion]
  cases f with
  | levelName => exact congrArg some (hpad _)
  | levelNumber => exact congrArg some (hpad _)
  | logger => exact congrArg some (hpad _)
  | message => exact congrArg some (hpad _)

/-- A pattern shows the fields of a record in their places. -/
theorem textOfPieces?_pattern (record : Record) (first : Bool) (pattern : Pattern) :
    textOfPieces? record first (pattern.map Element.piece) = some (pattern.text record) := by
  induction pattern generalizing first with
  | nil => rfl
  | cons element rest ih =>
    cases element with
    | char c =>
      rw [List.map_cons, Element.piece, textOfPieces?, ih first]
      rfl
    | field f =>
      have hfield : f.conversion.text? record first = some (f.shown record).toList :=
        ofValue?_field f record
      rw [List.map_cons, Element.piece, textOfPieces?, hfield, ih false]
      rfl

/-- The line of a record with a text: the failure that the record tells of stands on a line of its
    own. -/
def Record.lineOf (record : Record) (describe : Failure → String) (text : List Char) : String :=
  match record.failure with
  | none => String.ofList text ++ "\n"
  | some failure =>
    String.ofList text ++ (if text.getLast? = some '\n' then "" else "\n") ++ describe failure ++
      "\n"

theorem line?_eq (format : Format) (describe : Failure → String) (record : Record) :
    format.line? describe record = (format.text? record).map (record.lineOf describe) := by
  unfold Format.line? Record.lineOf
  cases format.text? record with
  | none => rfl
  | some text =>
    cases record.failure with
    | none => rfl
    | some failure => rfl

def Pattern.line (pattern : Pattern) (describe : Failure → String) (record : Record) : String :=
  record.lineOf describe (pattern.text record)

theorem line?_of_pieces {format : Format} {pattern : Pattern}
    (hpieces : format.pieces = some (pattern.map Element.piece)) (describe : Failure → String)
    (record : Record) : format.line? describe record = some (pattern.line describe record) := by
  rw [line?_eq, Format.text?, hpieces, Option.bind_some, textOfPieces?_pattern]
  rfl

theorem ofText_eq_ok {text : String} {format : Format} (hformat : Format.ofText text = .ok format) :
    format = ⟨pieces? text.toList⟩ := by
  unfold Format.ofText at hformat
  split at hformat
  · exact (Except.ok.inj hformat).symm
  · cases hformat

/-- A format that was read from the text of a pattern gives every record the line of the
    pattern. -/
theorem line?_of_pattern {pattern : Pattern} {format : Format}
    (hformat : Format.ofText pattern.format = .ok format) (describe : Failure → String)
    (record : Record) : format.line? describe record = some (pattern.line describe record) := by
  apply line?_of_pieces
  rw [ofText_eq_ok hformat, Pattern.format, String.toList_ofList]
  exact pieces?_spelled pattern

theorem line?_messageFormat (describe : Failure → String) (record : Record) :
    messageFormat.line? describe record = some (messagePattern.line describe record) := by
  have htext : "%(message)s".toList = messagePattern.flatMap Element.spelled := by decide
  apply line?_of_pieces
  rw [messageFormat, htext]
  exact pieces?_spelled messagePattern

end EngineBindings.Log
