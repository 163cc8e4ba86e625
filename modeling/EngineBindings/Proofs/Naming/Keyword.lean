/-
  EngineBindings/Proofs/Naming/Keyword.lean
  =========================================
  **Identifiers of names.**

  The identifier of a word of letters, digits and underscores is such a word too
  (`isWord_rustIdent`), so none of the characters that set a name apart in generated text
  stands in it (`not_mem_of_isWord`).  It is no keyword (`rustIdent_not_reserved`).

  Two names have one identifier only if they are the same, or if one is a keyword and the other
  this keyword with an underscore, which is left alone (`rustIdent_eq_rustIdent_iff`).
-/
import Mathlib.Data.List.Nodup
import EngineBindings.Naming.Keyword

namespace EngineBindings.Naming

def isWord (name : String) : Bool :=
  name.toList.all fun c => c.isAlphanum || c = '_'

theorem not_mem_of_isWord {name : String} (hword : isWord name = true) {c : Char}
    (hc : (c.isAlphanum || c = '_') = false) : c ∉ name.toList := by
  intro hmem
  have hall := List.all_eq_true.mp hword c hmem
  rw [hc] at hall
  cases hall

theorem isWord_rustIdent {name : String} (hword : isWord name = true) :
    isWord (rustIdent name) = true := by
  unfold rustIdent
  split
  · unfold isWord at hword ⊢
    rw [String.toList_append, List.all_append, hword]
    decide
  · exact hword

/-! ### Keywords and their identifiers -/

theorem underscored_not_reserved {word : String} (hword : word ∈ reservedWords) :
    word ++ "_" ∉ reservedWords := by
  have hall : ∀ word ∈ reservedWords, word ++ "_" ∉ reservedWords := by decide +kernel
  exact hall word hword

theorem rustIdent_not_reserved (name : String) : rustIdent name ∉ reservedWords := by
  unfold rustIdent
  split
  · rename_i hword
    exact underscored_not_reserved hword
  · rename_i hfree
    exact hfree

theorem rustIdent_underscored {word : String} (hword : word ∈ reservedWords) :
    rustIdent (word ++ "_") = rustIdent word := by
  unfold rustIdent
  rw [if_neg (underscored_not_reserved hword), if_pos hword]

theorem rustIdent_eq_rustIdent_iff {first second : String} :
    rustIdent first = rustIdent second ↔ first = second ∨
      (first ∈ reservedWords ∧ second = first ++ "_") ∨
      (second ∈ reservedWords ∧ first = second ++ "_") := by
  constructor
  · intro heq
    unfold rustIdent at heq
    by_cases hfirst : first ∈ reservedWords
    · by_cases hsecond : second ∈ reservedWords
      · rw [if_pos hfirst, if_pos hsecond, String.append_left_inj] at heq
        exact .inl heq
      · rw [if_pos hfirst, if_neg hsecond] at heq
        exact .inr (.inl ⟨hfirst, heq.symm⟩)
    · by_cases hsecond : second ∈ reservedWords
      · rw [if_neg hfirst, if_pos hsecond] at heq
        exact .inr (.inr ⟨hsecond, heq⟩)
      · rw [if_neg hfirst, if_neg hsecond] at heq
        exact .inl heq
  · rintro (rfl | ⟨hword, rfl⟩ | ⟨hword, rfl⟩)
    · rfl
    · exact (rustIdent_underscored hword).symm
    · exact rustIdent_underscored hword

/-- The name of the zero constant is the identifier of no other name. -/
theorem rustIdent_eq_zeroName {name : String} (hzero : rustIdent name = "UNSET") :
    name = "UNSET" := by
  have hother : ∀ word ∈ reservedWords, word ++ "_" ≠ "UNSET" := by decide +kernel
  unfold rustIdent at hzero
  split at hzero
  · rename_i hword
    exact absurd hzero (hother name hword)
  · exact hzero

/-- Distinct names have distinct identifiers exactly when none of them is what becomes of
    another one. -/
theorem nodup_map_rustIdent_iff {names : List String} (hdistinct : names.Nodup) :
    (names.map rustIdent).Nodup ↔
      ∀ word ∈ reservedWords, word ∈ names → word ++ "_" ∉ names := by
  constructor
  · intro hidents word hword hmem hmem'
    have hsame : word ++ "_" = word :=
      List.inj_on_of_nodup_map hidents hmem' hmem (rustIdent_underscored hword)
    have hlength := congrArg String.length hsame
    rw [String.length_append] at hlength
    have hone : "_".length = 1 := rfl
    omega
  · intro hapart
    apply hdistinct.map_on
    intro first hfirst second hsecond heq
    rcases rustIdent_eq_rustIdent_iff.mp heq with hsame | ⟨hword, rfl⟩ | ⟨hword, rfl⟩
    · exact hsame
    · exact absurd hsecond (hapart first hword hfirst)
    · exact absurd hfirst (hapart second hword hsecond)

end EngineBindings.Naming
