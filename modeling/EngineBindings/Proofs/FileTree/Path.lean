/-
  EngineBindings/Proofs/FileTree/Path.lean
  ========================================
  **Where the text of a name leads.**

  A text that is joined to a directory is read in two parts: what stands up to its last slash
  leads to a directory, and what stands after it names a child of that directory
  (`join_append_name`).  A text without a slash names a child of the directory itself
  (`join_of_no_slash`).
-/
import EngineBindings.FileTree.Path
import Mathlib.Data.List.DropRight

namespace EngineBindings.Path

/-! ### Stretches between slashes -/

theorem splitSlashes_of_no_slash {cs : List Char} (hplain : '/' ∉ cs) :
    splitSlashes cs = [cs] := by
  induction cs with
  | nil => rfl
  | cons c rest ih =>
    have hc : c ≠ '/' := fun h => hplain (h ▸ List.mem_cons_self)
    rw [splitSlashes, if_neg hc, ih fun h => hplain (List.mem_cons_of_mem _ h)]

theorem splitSlashes_ne_nil (cs : List Char) : splitSlashes cs ≠ [] := by
  induction cs with
  | nil => simp [splitSlashes]
  | cons c rest ih =>
    rw [splitSlashes]
    split
    · simp
    · split <;> simp

theorem splitSlashes_append_slash (front back : List Char) :
    splitSlashes (front ++ '/' :: back) = splitSlashes front ++ splitSlashes back := by
  induction front with
  | nil => simp [splitSlashes]
  | cons c rest ih =>
    rw [List.cons_append, splitSlashes, splitSlashes]
    by_cases hc : c = '/'
    · rw [if_pos hc, if_pos hc, ih, List.cons_append]
    · rw [if_neg hc, if_neg hc, ih]
      cases hrest : splitSlashes rest with
      | nil => exact absurd hrest (splitSlashes_ne_nil rest)
      | cons stretch others => rfl

/-! ### The last slash -/

/-- A text up to its last slash. -/
def wayOf (text : String) : String :=
  String.ofList (text.toList.rdropWhile (· ≠ '/'))

def lastName (text : String) : String :=
  String.ofList (text.toList.rtakeWhile (· ≠ '/'))

theorem wayOf_append_lastName (text : String) : wayOf text ++ lastName text = text := by
  rw [← String.toList_inj]
  simp [wayOf, lastName, List.rdropWhile_append_rtakeWhile]

theorem slash_not_mem_lastName (text : String) : '/' ∉ (lastName text).toList := by
  intro hmem
  rw [lastName, String.toList_ofList, List.rtakeWhile, List.mem_reverse] at hmem
  simpa using List.mem_takeWhile_imp hmem

theorem wayOf_cases (text : String) :
    (wayOf text).toList = [] ∨ ∃ front, (wayOf text).toList = front ++ ['/'] := by
  rw [wayOf, String.toList_ofList]
  rcases List.eq_nil_or_concat (text.toList.rdropWhile (· ≠ '/')) with hnil | ⟨front, c, hconcat⟩
  · exact Or.inl hnil
  · rw [List.concat_eq_append] at hconcat
    have hne : text.toList.rdropWhile (· ≠ '/') ≠ [] := by
      rw [hconcat]
      simp
    have hlast := List.rdropWhile_last_not (fun c : Char => decide (c ≠ '/')) text.toList hne
    have hc : c = '/' := by
      simp only [hconcat, List.getLast_concat] at hlast
      simpa using hlast
    exact Or.inr ⟨front, by rw [hconcat, hc]⟩

theorem wayOf_of_no_slash {text : String} (hplain : '/' ∉ text.toList) : wayOf text = "" := by
  have hnil : text.toList.rdropWhile (· ≠ '/') = [] := by
    rw [List.rdropWhile_eq_nil_iff]
    intro c hc
    simpa using fun h : c = '/' => hplain (h ▸ hc)
  rw [wayOf, hnil, String.ofList_nil]

theorem lastName_of_no_slash {text : String} (hplain : '/' ∉ text.toList) :
    lastName text = text := by
  have hsplit := wayOf_append_lastName text
  rwa [wayOf_of_no_slash hplain, String.empty_append] at hsplit

/-! ### Joining -/

/-- A way followed by a name: the names on the way, and the name. -/
theorem partsOf_append_name {way name : String}
    (hway : way.toList = [] ∨ ∃ front, way.toList = front ++ ['/'])
    (hplain : '/' ∉ name.toList) (hname : name ≠ "") (hdot : name ≠ ".") :
    partsOf (way ++ name) = partsOf way ++ [name] := by
  have hkept : (if (name.toList = [] || name.toList = ['.']) = true then none
      else some (String.ofList name.toList)) = some name := by
    have hone : name.toList ≠ ['.'] := fun h => hdot (String.toList_injective h)
    rw [if_neg (by simpa using ⟨hname, hone⟩), String.ofList_toList]
  unfold partsOf
  rw [String.toList_append]
  rcases hway with hnil | ⟨front, hfront⟩
  · rw [hnil, List.nil_append, splitSlashes_of_no_slash hplain]
    simp only [splitSlashes, List.filterMap_cons, List.filterMap_nil, hkept]
    rfl
  · rw [hfront, List.append_assoc, List.singleton_append, splitSlashes_append_slash,
      splitSlashes_append_slash, splitSlashes_of_no_slash hplain]
    simp only [splitSlashes, List.filterMap_append, List.filterMap_cons, List.filterMap_nil, hkept]
    simp

/-- Only the way decides how a text with a name at its end begins. -/
theorem leadingSlashes_append {way name : List Char}
    (hway : way = [] ∨ ∃ front, way = front ++ ['/']) (hplain : '/' ∉ name) :
    leadingSlashes (way ++ name) = leadingSlashes way := by
  cases name with
  | nil => rw [List.append_nil]
  | cons d more =>
    have hd : d ≠ '/' := fun h => hplain (h ▸ List.mem_cons_self)
    rcases way with _ | ⟨a, _ | ⟨b, _ | ⟨c, rest⟩⟩⟩
    · simp [leadingSlashes, hd]
    · have ha : a = '/' := by
        rcases hway with hnil | ⟨front, hfront⟩
        · cases hnil
        · simpa using congrArg List.getLast? hfront
      simp [leadingSlashes, ha, hd]
    · by_cases ha : a = '/' <;> by_cases hb : b = '/' <;> simp [leadingSlashes, ha, hb, hd]
    · by_cases ha : a = '/' <;> by_cases hb : b = '/' <;> by_cases hc : c = '/' <;>
        simp [leadingSlashes, ha, hb, hc]

/-- A name after a way is a child of the directory that the way leads to. -/
theorem join_append_name (directory : Path) {way name : String}
    (hway : way.toList = [] ∨ ∃ front, way.toList = front ++ ['/'])
    (hplain : '/' ∉ name.toList) (hname : name ≠ "") (hdot : name ≠ ".") :
    directory.join (way ++ name) =
      ⟨(directory.join way).slashes, (directory.join way).parts ++ [name]⟩ := by
  have hslashes : leadingSlashes (way ++ name).toList = leadingSlashes way.toList := by
    rw [String.toList_append, leadingSlashes_append hway hplain]
  unfold join ofText
  rw [hslashes, partsOf_append_name hway hplain hname hdot]
  dsimp only
  split
  · rw [List.append_assoc]
  · rfl

theorem join_empty (directory : Path) : directory.join "" = directory := by
  have hempty : ofText "" = ⟨0, []⟩ := by decide
  simp [join, hempty]

theorem join_of_no_slash (directory : Path) {name : String} (hplain : '/' ∉ name.toList)
    (hname : name ≠ "") (hdot : name ≠ ".") :
    directory.join name = ⟨directory.slashes, directory.parts ++ [name]⟩ := by
  have hjoin := directory.join_append_name (Or.inl String.toList_empty) hplain hname hdot
  rwa [String.empty_append, join_empty] at hjoin

end EngineBindings.Path
