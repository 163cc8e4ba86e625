/-
  EngineBindings/Proofs/Naming/Position.lean
  ==========================================
  **The walk over a class name, read off by position.**

  The conversion walks over a name with a memory of two characters.  What it writes at a
  position depends on four characters of the name and nothing else: the two before, the one
  at the position and the one behind (`separateWords_eq_flatMap`).  The missing characters at
  both ends of the name are the only place where the walk and the positional reading could
  part, so the step `startsWord_eq_separatorAt` goes by how much has been walked over: nothing,
  one character, or at least two.

  The corrections of single spellings are read off cuts of the name (`CorrectedBy`), each
  determined by the one before.  Main statement: `moduleName_by_position`.
-/
import EngineBindings.Proofs.Naming.Canonical

namespace EngineBindings.Naming

/-! ### Separators by position -/

theorem any_getElem?_iff (p : Char → Bool) (cs : List Char) (i : Nat) :
    cs[i]?.any p = true ↔ ∃ _ : i < cs.length, p cs[i] = true := by
  rw [Option.any_eq_true]
  constructor
  · rintro ⟨c, hc, hp⟩
    obtain ⟨hi, rfl⟩ := List.getElem?_eq_some_iff.mp hc
    exact ⟨hi, hp⟩
  · rintro ⟨hi, hp⟩
    exact ⟨cs[i], List.getElem?_eq_getElem hi, hp⟩

/-- A separator stands before a position behind a small letter, at a capital; and behind a
    capital, at a capital, before a small letter, unless the run of capitals began just
    before, behind a small letter or at the start of the name. -/
theorem separatorAt_iff (cs : List Char) (i : Nat) (hi : i < cs.length) :
    separatorAt cs i = true ↔
      (∃ _ : 1 ≤ i, isLower cs[i - 1] = true ∧ isCapital cs[i] = true) ∨
        (∃ _ : 2 ≤ i, ∃ _ : i + 1 < cs.length, isCapital cs[i - 1] = true ∧
          isCapital cs[i] = true ∧ isLower cs[i + 1] = true ∧ isLower cs[i - 2] = false) := by
  match i with
  | 0 => simp [separatorAt]
  | 1 =>
    have hfirst : 0 < cs.length := by omega
    simp [separatorAt, hi, hfirst]
  | i + 2 =>
    have hprevious : i + 1 < cs.length := by omega
    have hbeforePrevious : i < cs.length := by omega
    simp only [separatorAt, List.getElem?_eq_getElem hi, List.getElem?_eq_getElem hprevious,
      List.getElem?_eq_getElem hbeforePrevious, Option.any_some, any_getElem?_iff,
      Bool.or_eq_true, Bool.and_eq_true, Bool.not_eq_true']
    constructor
    · rintro (⟨hbehind, hat⟩ | ⟨⟨⟨hbehind, hat⟩, hnext, hbefore⟩, hrun⟩)
      · exact Or.inl ⟨by omega, hbehind, hat⟩
      · exact Or.inr ⟨by omega, hnext, hbehind, hat, hbefore, hrun⟩
    · rintro (⟨_, hbehind, hat⟩ | ⟨_, hnext, hbehind, hat, hbefore, hrun⟩)
      · exact Or.inl ⟨hbehind, hat⟩
      · exact Or.inr ⟨⟨⟨hbehind, hat⟩, hnext, hbefore⟩, hrun⟩

/-! ### The walk -/

/-- One step of the walk, with the characters before it given as the part walked over. -/
theorem startsWord_eq_separatorAt (done : List Char) (c : Char) (rest : List Char) :
    startsWord done.dropLast.getLast? done.getLast? c rest.head? =
      separatorAt (done ++ c :: rest) done.length := by
  rcases List.eq_nil_or_concat done with rfl | ⟨front, previous, rfl⟩
  · simp [startsWord, separatorAt]
  rcases List.eq_nil_or_concat front with rfl | ⟨front, beforePrevious, rfl⟩
  · simp [startsWord, separatorAt]
  · have hnext : (front ++ beforePrevious :: previous :: c :: rest)[front.length + 3]? =
        rest.head? := by
      rw [List.getElem?_append_right (by omega), List.head?_eq_getElem?]
      simp
    have hor := Bool.or_comm
      (isCapital previous && isCapital c && rest.head?.any isLower && !isLower beforePrevious)
      (isLower previous && isCapital c)
    simpa [startsWord, separatorAt, hnext] using hor

/-- What the walk writes for the characters it has not walked over yet: for each its small
    form, led by a separator where one stands before its position. -/
theorem separateWords_eq_flatMap (done rest : List Char) :
    separateWords done.dropLast.getLast? done.getLast? rest =
      (rest.zipIdx done.length).flatMap fun (c, i) =>
        (if separatorAt (done ++ rest) i then ['_'] else []) ++ [c.toLower] := by
  induction rest generalizing done with
  | nil => rfl
  | cons c rest ih =>
    have hrest := ih (done ++ [c])
    rw [List.dropLast_concat, List.getLast?_concat, List.length_append, List.length_singleton,
      List.append_assoc, List.singleton_append] at hrest
    rw [separateWords, startsWord_eq_separatorAt, hrest, List.zipIdx_cons, List.flatMap_cons,
      lowerAscii_eq_toLower, List.append_assoc, List.singleton_append]

/-! ### Corrections -/

/-- `out` is `name` after the spellings of a table are put right in their order, each at its
    first occurrence. -/
def CorrectedBy : List (List Char × List Char) → List Char → List Char → Prop
  | [], name, out => out = name
  | (pattern, replacement) :: rest, name, out =>
    ∃ next, Text.FirstReplaced pattern replacement name next ∧ CorrectedBy rest next out

theorem foldl_replaceFirst_eq_iff (entries : List (List Char × List Char))
    (name out : List Char) :
    entries.foldl (fun name (pattern, replacement) =>
      Text.replaceFirst pattern replacement name) name = out ↔ CorrectedBy entries name out := by
  induction entries generalizing name with
  | nil => exact eq_comm
  | cons entry rest ih =>
    obtain ⟨pattern, replacement⟩ := entry
    rw [List.foldl_cons, ih, CorrectedBy]
    constructor
    · intro hout
      exact ⟨_, Text.firstReplaced_replaceFirst pattern replacement name, hout⟩
    · rintro ⟨next, hnext, hout⟩
      obtain rfl := (Text.replaceFirst_eq_iff pattern replacement name next).mpr hnext
      exact hout

/-! ### The whole conversion -/

/-- **The conversion by position.**  The name without underscores is written in lower case,
    with a separator before each position that the first part tells; then the three spellings
    are put right, and the name that an import would hide takes an underscore. -/
theorem moduleName_by_position (className : String) :
    (∀ (cs : List Char) (i : Nat) (_ : i < cs.length), separatorAt cs i = true ↔
      (∃ _ : 1 ≤ i, cs[i - 1].isLower = true ∧ (cs[i].isUpper || cs[i].isDigit) = true) ∨
        (∃ _ : 2 ≤ i, ∃ _ : i + 1 < cs.length,
          (cs[i - 1].isUpper || cs[i - 1].isDigit) = true ∧
          (cs[i].isUpper || cs[i].isDigit) = true ∧
          cs[i + 1].isLower = true ∧ cs[i - 2].isLower = false)) ∧
    separated className.toList =
      ((className.toList.filter (· ≠ '_')).zipIdx.flatMap fun (c, i) =>
        (if separatorAt (className.toList.filter (· ≠ '_')) i then ['_'] else []) ++
          [c.toLower]) ∧
    ∀ out, moduleName className = out ↔
      ∃ name, CorrectedBy [("_vec_3".toList, "_vec3_".toList),
          ("gd_native".toList, "gdnative".toList), ("gd_script".toList, "gdscript".toList)]
          (separated className.toList) name ∧
        out.toList = if name = "gdnative".toList then name ++ ['_'] else name := by
  refine ⟨?_, ?_, ?_⟩
  · intro cs i hi
    simpa only [isCapital_eq, isLower_eq] using separatorAt_iff cs i hi
  · exact separateWords_eq_flatMap [] (className.toList.filter (· ≠ '_'))
  · intro out
    rw [← String.toList_inj, toList_moduleName, moduleChars]
    constructor
    · intro hout
      exact ⟨corrected (separated className.toList),
        (foldl_replaceFirst_eq_iff corrections _ _).mp rfl, hout.symm⟩
    · rintro ⟨name, hname, hout⟩
      have hcorrected : corrected (separated className.toList) = name :=
        (foldl_replaceFirst_eq_iff corrections _ _).mpr hname
      rw [hcorrected]
      exact hout.symm

/-- Both rules for a separator: before the last of a run of capitals, and behind a small letter. -/
example : moduleName "HTTPRequest2D" = "http_request_2d" := by decide

end EngineBindings.Naming
