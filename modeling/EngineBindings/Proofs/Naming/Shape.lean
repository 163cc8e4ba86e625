/-
  EngineBindings/Proofs/Naming/Shape.lean
  =======================================
  **What every module name looks like.**

  A module name holds no ASCII capital, no two underscores side by side and none at its start.
  Two of the corrections take an underscore out between letters and cannot spoil this.  The
  first one puts an underscore in, behind `_vec3`, and is safe only because of what the walk
  over the name never does: no word after the first is a single character that another word
  follows (`wordsApart_separateWords`, by the step `startsWord_next`).  For the same reason a
  module name ends in an underscore only where that correction meets the end of the name, or
  where the underscore of a hidden name is added.  Main statement: `moduleName_shape`.
-/
import Mathlib
import EngineBindings.Proofs.Naming.Canonical

namespace EngineBindings.Naming

/-! ### Words are apart -/

/-- A word that has just begun is not cut at its second character. -/
theorem startsWord_next {beforePrevious previous : Option Char} {c d : Char}
    (hstarts : startsWord beforePrevious previous c (some d) = true) (next : Option Char) :
    startsWord previous (some c) d next = false := by
  simp only [startsWord, Option.any_some, Bool.or_eq_true, Bool.and_eq_true] at hstarts
  have hcapital : isCapital c = true := by
    rcases hstarts with ⟨⟨⟨_, hc⟩, _⟩, _⟩ | ⟨_, hc⟩
    · exact hc
    · exact hc
  rw [startsWord, Option.any_some, Option.any_some, isLower_of_isCapital hcapital, hcapital]
  rcases hstarts with ⟨⟨_, hd⟩, _⟩ | ⟨hprevious, _⟩
  · -- the word began before a small letter, which begins no word
    have hd' : isCapital d = false := by
      rw [Bool.eq_false_iff]
      intro hcapital'
      rw [isLower_of_isCapital hcapital'] at hd
      cases hd
    simp [hd']
  · -- the word began behind a small letter, so its run of capitals is not broken here
    cases previous with
    | none => cases hprevious
    | some p =>
      have hp : isLower p = true := hprevious
      simp [hp]

/-- Behind an underscore stands a character, and neither of the next two is an underscore. -/
def WordsApart (cs : List Char) : Prop :=
  ∀ back, ('_' :: back) <:+ cs → back ≠ [] ∧ '_' ∉ back.take 2

theorem head?_separateWords {beforePrevious previous : Option Char} {cs : List Char}
    (hbare : '_' ∉ cs) (hhead : (separateWords beforePrevious previous cs).head? = some '_') :
    ∃ c rest, cs = c :: rest ∧ startsWord beforePrevious previous c rest.head? = true := by
  cases cs with
  | nil => cases hhead
  | cons c rest =>
    refine ⟨c, rest, rfl, ?_⟩
    have hc : c ≠ '_' := fun heq => hbare (heq ▸ List.mem_cons_self)
    by_contra hstarts
    rw [separateWords, if_neg hstarts, List.nil_append, List.head?_cons, Option.some_inj] at hhead
    exact hc ((lowerAscii_eq_underscore_iff c).mp hhead)

theorem head?_separated (className : List Char) : (separated className).head? ≠ some '_' := by
  intro hhead
  obtain ⟨c, rest, _, hstarts⟩ := head?_separateWords (by simp) hhead
  simp [startsWord] at hstarts

theorem wordsApart_separateWords (beforePrevious previous : Option Char) (cs : List Char)
    (hbare : '_' ∉ cs) : WordsApart (separateWords beforePrevious previous cs) := by
  induction cs generalizing beforePrevious previous with
  | nil =>
    intro back hback
    cases List.eq_nil_of_suffix_nil hback
  | cons c rest ih =>
    intro back hback
    have hc : lowerAscii c ≠ '_' := by
      rw [Ne, lowerAscii_eq_underscore_iff]
      exact fun heq => hbare (heq ▸ List.mem_cons_self)
    have hrest : '_' ∉ rest := fun hmem => hbare (List.mem_cons_of_mem c hmem)
    have hbehind : ('_' :: back) <:+ lowerAscii c :: separateWords previous (some c) rest →
        back ≠ [] ∧ '_' ∉ back.take 2 := by
      intro hsuffix
      rcases List.suffix_cons_iff.mp hsuffix with heq | htail
      · exact absurd (List.cons.inj heq).1.symm hc
      · exact ih previous (some c) hrest back htail
    rw [separateWords] at hback
    split at hback
    case isFalse => exact hbehind hback
    case isTrue hstarts =>
      rw [List.singleton_append] at hback
      rcases List.suffix_cons_iff.mp hback with heq | htail
      · -- the separator before `c`: it is followed by `c` and by no second separator
        obtain rfl := (List.cons.inj heq).2
        refine ⟨List.cons_ne_nil _ _, ?_⟩
        rw [List.take_succ_cons, List.mem_cons, not_or, List.take_one]
        refine ⟨hc.symm, fun hmem => ?_⟩
        obtain ⟨d, rest', rfl, hstarts'⟩ :=
          head?_separateWords hrest (Option.mem_toList.mp hmem)
        rw [startsWord_next hstarts] at hstarts'
        cases hstarts'
      · exact hbehind htail

theorem wordsApart_separated (className : List Char) : WordsApart (separated className) :=
  wordsApart_separateWords none none _ (by simp)

theorem WordsApart.getLast?_ne {cs : List Char} (hapart : WordsApart cs) :
    cs.getLast? ≠ some '_' := by
  intro hlast
  obtain ⟨front, hcs⟩ := List.getLast?_eq_some_iff.mp hlast
  exact (hapart [] ⟨front, hcs.symm⟩).1 rfl

/-! ### No two underscores side by side -/

def NoDoubled (cs : List Char) : Prop :=
  cs.IsChain fun a b => a = '_' → b ≠ '_'

theorem NoDoubled.not_isInfix {cs : List Char} (hcs : NoDoubled cs) : ¬ ['_', '_'] <:+: cs := by
  intro hinfix
  have hpair := List.IsChain.infix hcs hinfix
  exact List.isChain_pair.mp hpair rfl rfl

theorem WordsApart.noDoubled {cs : List Char} (hapart : WordsApart cs) : NoDoubled cs := by
  rw [NoDoubled, List.isChain_iff_forall_rel_of_append_cons_cons]
  rintro a b front back rfl rfl rfl
  have htake := (hapart ('_' :: back) ⟨front, rfl⟩).2
  simp at htake

/-- A replacement that begins like its pattern puts no two underscores side by side, if it ends
    in none or none follows the pattern. -/
theorem NoDoubled.replaceFirst {pattern replacement cs : List Char} (hcs : NoDoubled cs)
    (hhead : replacement.head? = pattern.head?) (hreplacement : NoDoubled replacement)
    (hbehind : ∀ front back, Text.FirstOccurrence pattern cs front back →
      (front ++ replacement).getLast? = some '_' → back.head? ≠ some '_') :
    NoDoubled (Text.replaceFirst pattern replacement cs) := by
  rcases Text.firstReplaced_replaceFirst pattern replacement cs with
    ⟨front, back, hfirst, hout⟩ | ⟨_, hout⟩
  · rw [NoDoubled, hfirst.split, List.isChain_append, List.isChain_append, ← hhead] at hcs
    obtain ⟨⟨hfront, _, hbefore⟩, hback, _⟩ := hcs
    rw [NoDoubled, hout, List.isChain_append, List.isChain_append]
    refine ⟨⟨hfront, hreplacement, hbefore⟩, hback, ?_⟩
    rintro _ hlast _ hnext rfl rfl
    exact hbehind front back hfirst hlast hnext
  · rw [hout]
    exact hcs

/-- The correction that puts an underscore in finds none behind its pattern. -/
theorem WordsApart.noDoubled_vec {cs : List Char} (hapart : WordsApart cs) :
    NoDoubled (Text.replaceFirst "_vec_3".toList "_vec3_".toList cs) := by
  refine hapart.noDoubled.replaceFirst (by simp) (by simp [NoDoubled]) ?_
  intro front back hfirst _ hback
  have hsuffix : ('_' :: '3' :: back) <:+ cs :=
    ⟨front ++ "_vec".toList, by rw [hfirst.split]; simp⟩
  have htake := (hapart _ hsuffix).2
  rw [List.take_succ_cons, List.take_one, hback] at htake
  simp at htake

theorem noDoubled_corrected {name : List Char} (hapart : WordsApart name) :
    NoDoubled (corrected name) := by
  have hvec := hapart.noDoubled_vec
  have hnative : NoDoubled (Text.replaceFirst "gd_native".toList "gdnative".toList
      (Text.replaceFirst "_vec_3".toList "_vec3_".toList name)) :=
    hvec.replaceFirst (by simp) (by simp [NoDoubled]) (by simp)
  exact hnative.replaceFirst (by simp) (by simp [NoDoubled]) (by simp)

/-! ### Both ends -/

theorem corrections_begin_alike : ∀ entry ∈ corrections, entry.2.head? = entry.1.head? := by
  decide +kernel

theorem head?_corrected (name : List Char) : (corrected name).head? = name.head? := by
  apply corrected_keeps List.head?
  intro entry hentry front back
  simp only [List.head?_append, corrections_begin_alike entry hentry]

/-- Only the first correction can leave an underscore at the end of a name. -/
theorem getLast?_corrected_iff {name : List Char} (hlast : name.getLast? ≠ some '_') :
    (corrected name).getLast? = some '_' ↔
      ∃ front, Text.FirstOccurrence "_vec_3".toList name front [] := by
  have hvec : (Text.replaceFirst "_vec_3".toList "_vec3_".toList name).getLast? = some '_' ↔
      ∃ front, Text.FirstOccurrence "_vec_3".toList name front [] :=
    Text.getLast?_replaceFirst_iff hlast (by simp)
  rw [← hvec]
  apply Eq.congr_left
  calc (corrected name).getLast?
      = (Text.replaceFirst "gd_native".toList "gdnative".toList
          (Text.replaceFirst "_vec_3".toList "_vec3_".toList name)).getLast? :=
        Text.replaceFirst_keeps List.getLast? (by simp) _
    _ = (Text.replaceFirst "_vec_3".toList "_vec3_".toList name).getLast? :=
        Text.replaceFirst_keeps List.getLast? (by simp) _

/-! ### The whole name -/

theorem isUpper_of_mem_moduleChars {className : List Char} {c : Char}
    (hc : c ∈ moduleChars className) : c.isUpper = false := by
  by_cases hunderscore : c = '_'
  · rw [hunderscore]
    rfl
  · have hmem : c ∈ canonical className := by
      rw [← moduleChars_filter]
      exact List.mem_filter.mpr ⟨hc, by simpa using hunderscore⟩
    obtain ⟨d, _, rfl⟩ := List.mem_map.mp hmem
    rw [lowerAscii_eq_toLower]
    exact Char.isUpper_toLower_eq_false d

/-- **The shape of a module name.**  It is in lower case, has no underscore at its start and no
    two side by side, and is never the name that an import hides; it ends in an underscore
    exactly where the first correction meets the end of the name, and where the hidden name
    is put aside. -/
theorem moduleName_shape (className : String) :
    (∀ c ∈ (moduleName className).toList, c.isUpper = false) ∧
    ¬ ['_', '_'] <:+: (moduleName className).toList ∧
    (moduleName className).toList.head? ≠ some '_' ∧
    moduleName className ≠ "gdnative" ∧
    ((moduleName className).toList.getLast? = some '_' ↔
      (∃ front, Text.FirstOccurrence "_vec_3".toList (separated className.toList) front []) ∨
        corrected (separated className.toList) = "gdnative".toList) := by
  have hhidden_iff : moduleName className = "gdnative" ↔
      moduleChars className.toList = "gdnative".toList := by
    rw [← String.toList_inj, toList_moduleName]
  simp only [ne_eq, hhidden_iff, toList_moduleName]
  refine ⟨fun c hc => isUpper_of_mem_moduleChars hc, ?_⟩
  rcases moduleChars_cases className.toList with ⟨hhidden, hname⟩ | ⟨hother, hname⟩
  · have hput : hiddenByImport ++ ['_'] = "gdnative_".toList := rfl
    rw [hname, hhidden, hput]
    refine ⟨NoDoubled.not_isInfix (by simp [NoDoubled]), by simp, by simp, ?_⟩
    exact iff_of_true (by simp) (Or.inr rfl)
  · have hapart := wordsApart_separated className.toList
    rw [hname]
    refine ⟨(noDoubled_corrected hapart).not_isInfix, ?_, hother, ?_⟩
    · rw [head?_corrected]
      exact head?_separated className.toList
    · rw [getLast?_corrected_iff hapart.getLast?_ne]
      exact (or_iff_left hother).symm

/-- The first correction at the end of a name. -/
example : moduleName "UniformVec3" = "uniform_vec3_" := by decide

end EngineBindings.Naming
