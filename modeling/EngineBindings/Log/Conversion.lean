/-
  EngineBindings/Log/Conversion.lean
  ==================================
  **The conversions of a format.**

  The format of log lines is a text with conversions in it, such as `%(levelname)-8s`: the
  name of a field, flags, a width, a precision, and a letter for the notation.  The letter may
  have a mark of length before it, which means nothing, and `%%` stands for a percent sign.

  A format has to name a field somewhere (`namesField`).  That check is more lenient than the
  reading of conversions: it takes digits of any script, either case of the letter, and a star
  for a number.
-/
import EngineBindings.Text.Affix
import EngineBindings.Text.Word

namespace EngineBindings.Log

/-! ### Conversions -/

structure Conversion where
  /-- The name of the field between parentheses. -/
  key : Option (List Char)
  flags : List Char
  /-- The least length. -/
  width : Nat
  precision : Option Nat
  kind : Char

def isFlag (c : Char) : Bool :=
  c = '#' || c = '0' || c = '+' || c = ' ' || c = '-'

def maxPrecision : Nat := 2147483647

/-- The greatest width, and the most digits that a number may be asked for. -/
def maxLength : Nat := 100000000

/-- The name between parentheses at the start of a text, and what follows it. -/
def takeKey? : List Char → Option (Option (List Char) × List Char)
  | '(' :: rest => (Text.cutChars? ')' rest).map fun (key, rest) => (some key, rest)
  | cs => some (none, cs)

/-- The number at the start of a text, zero if there is none, and what follows it. -/
def takeSize (cs : List Char) : Nat × List Char :=
  (Text.decimalNumber (cs.takeWhile Char.isDigit), cs.dropWhile Char.isDigit)

def takePrecision : List Char → Option Nat × List Char
  | '.' :: rest => (some (takeSize rest).1, (takeSize rest).2)
  | cs => (none, cs)

def dropLength : List Char → List Char
  | 'h' :: rest => rest
  | 'l' :: rest => rest
  | 'L' :: rest => rest
  | cs => cs

/-- The conversion that follows a percent sign, and what follows the conversion. -/
def takeConversion? (cs : List Char) : Option (Conversion × List Char) :=
  match takeKey? cs with
  | none => none
  | some (key, cs) =>
    let (width, after) := takeSize (cs.dropWhile isFlag)
    let (precision, after) := takePrecision after
    if maxLength < width || precision.any (maxPrecision < ·) then none
    else
      match dropLength after with
      | kind :: rest => some (⟨key, cs.takeWhile isFlag, width, precision, kind⟩, rest)
      | [] => none

theorem length_dropWhile_le (p : Char → Bool) (cs : List Char) :
    (cs.dropWhile p).length ≤ cs.length :=
  (List.dropWhile_suffix p).length_le

theorem length_cutChars?_lt {separator : Char} {cs front back : List Char}
    (h : Text.cutChars? separator cs = some (front, back)) : back.length < cs.length := by
  induction cs generalizing front with
  | nil => simp [Text.cutChars?] at h
  | cons c rest ih =>
    simp only [Text.cutChars?] at h
    split at h
    · simp only [Option.some.injEq, Prod.mk.injEq] at h
      simp [h.2]
    · obtain ⟨⟨f, b⟩, found, same⟩ := Option.map_eq_some_iff.1 h
      simp only [Prod.mk.injEq] at same
      have := ih (show Text.cutChars? separator rest = some (f, back) by rw [found, same.2])
      simp only [List.length_cons]
      omega

theorem length_takeSize_le (cs : List Char) : (takeSize cs).2.length ≤ cs.length :=
  length_dropWhile_le _ _

theorem length_takePrecision_le (cs : List Char) : (takePrecision cs).2.length ≤ cs.length := by
  unfold takePrecision
  split
  · have := length_takeSize_le ‹List Char›
    simp only [List.length_cons]
    omega
  · exact Nat.le_refl _

theorem length_dropLength_le (cs : List Char) : (dropLength cs).length ≤ cs.length := by
  unfold dropLength
  split <;> simp

theorem length_takeKey?_le {cs rest : List Char} {key : Option (List Char)}
    (h : takeKey? cs = some (key, rest)) : rest.length ≤ cs.length := by
  unfold takeKey? at h
  split at h
  · obtain ⟨⟨f, b⟩, found, same⟩ := Option.map_eq_some_iff.1 h
    simp only [Prod.mk.injEq] at same
    have := length_cutChars?_lt found
    rw [same.2] at this
    simp only [List.length_cons]
    omega
  · simp only [Option.some.injEq, Prod.mk.injEq] at h
    exact Nat.le_of_eq (congrArg List.length h.2.symm)

theorem length_takeConversion?_lt {cs rest : List Char} {c : Conversion}
    (h : takeConversion? cs = some (c, rest)) : rest.length < cs.length := by
  unfold takeConversion? at h
  split at h
  · simp at h
  · rename_i key after key_eq
    have key_le := length_takeKey?_le key_eq
    have flags_le := length_dropWhile_le isFlag after
    have width_le := length_takeSize_le (after.dropWhile isFlag)
    have precision_le := length_takePrecision_le (takeSize (after.dropWhile isFlag)).2
    have length_le :=
      length_dropLength_le (takePrecision (takeSize (after.dropWhile isFlag)).2).2
    simp only at h
    split at h
    · simp at h
    · split at h
      · rename_i kind tail tail_eq
        rw [tail_eq] at length_le
        simp only [Option.some.injEq, Prod.mk.injEq] at h
        rw [← h.2]
        simp only [List.length_cons] at length_le
        omega
      · simp at h

/-! ### Pieces -/

/-- A part of a format: one character as it is, or a conversion. -/
inductive Piece where
  | char (c : Char)
  | conversion (c : Conversion)

/-- What a percent sign stands for together with what follows it, and what follows that. -/
def takePiece? : List Char → Option (Piece × List Char)
  | '%' :: rest => some (.char '%', rest)
  | cs => (takeConversion? cs).map fun (conversion, rest) => (.conversion conversion, rest)

theorem length_takePiece?_lt {cs rest : List Char} {piece : Piece}
    (h : takePiece? cs = some (piece, rest)) : rest.length < cs.length := by
  unfold takePiece? at h
  split at h
  · simp only [Option.some.injEq, Prod.mk.injEq] at h
    simp [h.2]
  · obtain ⟨⟨c, r⟩, found, same⟩ := Option.map_eq_some_iff.1 h
    simp only [Prod.mk.injEq] at same
    rw [← same.2]
    exact length_takeConversion?_lt found

/-- The pieces of a format; none if one of its conversions is malformed. -/
def pieces? : List Char → Option (List Piece)
  | [] => some []
  | c :: rest =>
    if c = '%' then
      match _h : takePiece? rest with
      | some (piece, after) => (pieces? after).map (piece :: ·)
      | none => none
    else (pieces? rest).map (.char c :: ·)
termination_by cs => cs.length
decreasing_by
  · have := length_takePiece?_lt _h
    simp only [List.length_cons]
    omega
  · simp

/-! ### Naming a field -/

/-- The letters of the notations, in either case, and the percent sign. -/
def kinds : List Char := "diouxefgcrsaDIOUXEFGCRSAİıſ%".toList

/-- What follows the name of a field between parentheses at the start of a text. -/
def afterKey? : List Char → Option (List Char)
  | '(' :: rest =>
    match rest.takeWhile Text.isWordChar, rest.dropWhile Text.isWordChar with
    | _ :: _, ')' :: after => some after
    | _, _ => none
  | _ => none

def afterSize : List Char → List Char
  | '*' :: rest => rest
  | cs => cs.dropWhile Text.isDecimal

/-- What follows the precision at the start of a text; a point alone is none. -/
def afterPrecision : List Char → List Char
  | '.' :: rest => if afterSize rest = rest then '.' :: rest else afterSize rest
  | cs => cs

/-- Whether a conversion that names a field stands at the start of a text. -/
def startsWithField (cs : List Char) : Bool :=
  (afterKey? cs).any fun rest =>
    (afterPrecision (afterSize (rest.dropWhile isFlag))).head?.any kinds.contains

/-- Whether a conversion that names a field stands somewhere in a text. -/
def namesField : List Char → Bool
  | [] => false
  | c :: rest => (c = '%' && startsWithField rest) || namesField rest

end EngineBindings.Log
