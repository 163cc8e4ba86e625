/-
  EngineBindings/Proofs/Text/Affix.lean
  =====================================
  **Texts that are put together and taken apart.**

  A text is read by what it begins with, what it ends with and where its first separator
  stands.  Each reading finds what the text was put together from, provided that the parts do
  not run into each other: two beginnings that differ in their first character exclude each
  other (`append_ne_append`), an ending does not reach into a part that lacks its first
  character (`endsWith_append`), and the first separator is the one that was put there if the
  part before it has none (`cut?_append`).
-/
import EngineBindings.Text.Affix

namespace EngineBindings.Text

/-! ### Beginnings -/

theorem after?_append (start rest : String) : after? start (start ++ rest) = some rest :=
  (after?_eq_some_iff _ _ _).mpr rfl

theorem after?_eq_none_iff (start text : String) :
    after? start text = none ↔ ¬ ∃ rest, text = start ++ rest := by
  rw [Option.eq_none_iff_forall_ne_some, not_exists]
  exact forall_congr' fun rest => not_congr (after?_eq_some_iff start text rest)

/-- No text begins in two ways that differ in their first character. -/
theorem append_ne_append {start other : String} {c d : Char}
    (hstart : start.toList.head? = some c) (hother : other.toList.head? = some d) (hne : c ≠ d)
    (rest back : String) : start ++ rest ≠ other ++ back := by
  intro heq
  have hhead := congrArg (fun text : String => text.toList.head?) heq
  simp only [String.toList_append, List.head?_append, hstart, hother, Option.some_or,
    Option.some_inj] at hhead
  exact hne hhead

theorem after?_append_of_ne {start other : String} {c d : Char}
    (hstart : start.toList.head? = some c) (hother : other.toList.head? = some d) (hne : c ≠ d)
    (rest : String) : after? start (other ++ rest) = none := by
  rw [after?_eq_none_iff]
  rintro ⟨back, heq⟩
  exact append_ne_append hstart hother hne back rest heq.symm

/-! ### Endings -/

/-- An ending does not reach into a part without its first character. -/
theorem endsWith_append {ending start : String} {c : Char}
    (hending : ending.toList.head? = some c) (hstart : c ∉ start.toList) (rest : String) :
    (∃ front, start ++ rest = front ++ ending) ↔ ∃ front, rest = front ++ ending := by
  constructor
  · rintro ⟨front, heq⟩
    have hchars := congrArg String.toList heq
    rw [String.toList_append, String.toList_append, List.append_eq_append_iff] at hchars
    rcases hchars with ⟨cs, -, hrest⟩ | ⟨cs, hsplit, hend⟩
    · refine ⟨String.ofList cs, ?_⟩
      rw [← String.toList_inj, String.toList_append, String.toList_ofList, hrest]
    · cases cs with
      | nil =>
        refine ⟨"", ?_⟩
        rw [← String.toList_inj, String.empty_append]
        exact hend.symm
      | cons d cs =>
        -- the ending would begin inside `start`
        rw [hend, List.cons_append, List.head?_cons, Option.some_inj] at hending
        refine absurd ?_ hstart
        rw [hsplit, ← hending]
        exact List.mem_append_right _ List.mem_cons_self
  · rintro ⟨front, rfl⟩
    exact ⟨start ++ front, by rw [String.append_assoc]⟩

/-! ### Cutting at a separator -/

theorem cutChars?_eq_none {separator : Char} {cs : List Char} (hplain : separator ∉ cs) :
    cutChars? separator cs = none := by
  induction cs with
  | nil => rfl
  | cons c rest ih =>
    rw [List.mem_cons, not_or] at hplain
    rw [cutChars?, if_neg (Ne.symm hplain.1), ih hplain.2]
    rfl

theorem cutChars?_append {separator : Char} {front : List Char} (back : List Char)
    (hplain : separator ∉ front) :
    cutChars? separator (front ++ separator :: back) = some (front, back) := by
  induction front with
  | nil => rw [List.nil_append, cutChars?, if_pos rfl]
  | cons c rest ih =>
    rw [List.mem_cons, not_or] at hplain
    rw [List.cons_append, cutChars?, if_neg (Ne.symm hplain.1), ih hplain.2]
    rfl

theorem cut?_eq_none {separator : Char} {text : String} (hplain : separator ∉ text.toList) :
    cut? separator text = none := by
  rw [cut?, cutChars?_eq_none hplain]
  rfl

theorem cut?_append {front back start : String} {separator : Char}
    (hstart : start.toList = [separator]) (hplain : separator ∉ front.toList) :
    cut? separator (front ++ start ++ back) = some (front, back) := by
  have htext : (front ++ start ++ back).toList = front.toList ++ separator :: back.toList := by
    rw [String.toList_append, String.toList_append, hstart, List.append_assoc]
    rfl
  rw [cut?, htext, cutChars?_append _ hplain]
  simp

end EngineBindings.Text
