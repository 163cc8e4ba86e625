/-
  EngineBindings/Text/Affix.lean
  ==============================
  **Beginnings, endings and first occurrences.**

  Type names of the engine are read by their beginnings (`enum::`, `typedarray::`), their
  endings (`Array`) and the first dot that splits an owner from its enum.  Each operation
  here is a short recursion on the characters together with the one equation that says
  what it finds, so later arguments cite the equation and never the recursion.
-/

namespace EngineBindings.Text

/-! ### Beginnings -/

/-- What follows `start` in a list of characters that begins with it. -/
def afterChars? : List Char → List Char → Option (List Char)
  | [], rest => some rest
  | _ :: _, [] => none
  | a :: start, b :: rest => if a = b then afterChars? start rest else none

theorem afterChars?_eq_some_iff (start cs rest : List Char) :
    afterChars? start cs = some rest ↔ cs = start ++ rest := by
  induction start generalizing cs with
  | nil => simp [afterChars?]
  | cons a start ih =>
    cases cs with
    | nil => simp [afterChars?]
    | cons b cs =>
      by_cases h : a = b
      · simp [afterChars?, h, ih]
      · simp [afterChars?, h, Ne.symm h]

/-- What follows `start` in a text that begins with it. -/
def after? (start text : String) : Option String :=
  (afterChars? start.toList text.toList).map String.ofList

theorem after?_eq_some_iff (start text rest : String) :
    after? start text = some rest ↔ text = start ++ rest := by
  simp only [after?, Option.map_eq_some_iff, afterChars?_eq_some_iff, ← String.toList_inj,
    String.toList_append]
  constructor
  · rintro ⟨cs, h, rest_eq⟩
    simp [h, ← rest_eq]
  · intro h
    exact ⟨rest.toList, h, by simp⟩

/-! ### Endings -/

def endsWith (ending text : String) : Bool :=
  (afterChars? ending.toList.reverse text.toList.reverse).isSome

theorem endsWith_iff (ending text : String) :
    endsWith ending text = true ↔ ∃ front, text = front ++ ending := by
  simp only [endsWith, Option.isSome_iff_exists, afterChars?_eq_some_iff, ← String.toList_inj,
    String.toList_append]
  constructor
  · rintro ⟨cs, h⟩
    refine ⟨String.ofList cs.reverse, ?_⟩
    have := congrArg List.reverse h
    simpa using this
  · rintro ⟨front, h⟩
    exact ⟨front.toList.reverse, by simp [h]⟩

/-! ### The first separator -/

/-- The characters before and after the first `separator`. -/
def cutChars? (separator : Char) : List Char → Option (List Char × List Char)
  | [] => none
  | c :: rest =>
    if c = separator then some ([], rest)
    else (cutChars? separator rest).map fun (front, back) => (c :: front, back)

/-- The texts before and after the first `separator`. -/
def cut? (separator : Char) (text : String) : Option (String × String) :=
  (cutChars? separator text.toList).map fun (front, back) =>
    (String.ofList front, String.ofList back)

/-! ### The first occurrence -/

/-- The first occurrence of `pattern` replaced; a list without one is returned unchanged. -/
def replaceFirst (pattern replacement : List Char) : List Char → List Char
  | [] => (afterChars? pattern []).elim [] (replacement ++ ·)
  | c :: rest =>
    match afterChars? pattern (c :: rest) with
    | some back => replacement ++ back
    | none => c :: replaceFirst pattern replacement rest

end EngineBindings.Text
