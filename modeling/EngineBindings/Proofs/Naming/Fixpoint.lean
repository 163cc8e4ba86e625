/-
  EngineBindings/Proofs/Naming/Fixpoint.lean
  ==========================================
  **Names that the conversion has nothing to do for.**

  A separator stands before a capital or a digit only, and every spelling that is put right
  holds an underscore.  So of a name without capitals and digits the conversion takes the
  underscores out, and does nothing else but put the hidden name aside
  (`moduleChars_of_no_capital`).

  Converting twice is a matter of capitals alone.  The conversion sees a name only without its
  underscores, and keeps what it sees up to case; so what it makes of a name without capitals
  it leaves alone, whether the name has digits or not (`moduleChars_moduleChars`).
-/
import EngineBindings.Proofs.Naming.Canonical

namespace EngineBindings.Naming

/-! ### Twice is once -/

/-- The conversion sees a name only without its underscores. -/
theorem moduleChars_eq_of_filter_eq {name other : List Char}
    (hbare : name.filter (· ≠ '_') = other.filter (· ≠ '_')) :
    moduleChars name = moduleChars other := by
  rw [moduleChars, moduleChars, separated, separated, hbare]

theorem canonical_of_no_upper {name : List Char} (hname : ∀ c ∈ name, c.isUpper = false) :
    canonical name = name.filter (· ≠ '_') := by
  calc canonical name = (name.filter (· ≠ '_')).map id :=
        List.map_congr_left fun c hc =>
          lowerAscii_of_isUpper_eq_false (hname c (List.mem_filter.mp hc).1)
    _ = name.filter (· ≠ '_') := List.map_id _

theorem moduleChars_moduleChars {name : List Char} (hname : ∀ c ∈ name, c.isUpper = false) :
    moduleChars (moduleChars name) = moduleChars name := by
  apply moduleChars_eq_of_filter_eq
  rw [moduleChars_filter, canonical_of_no_upper hname]

/-! ### Names without capitals and digits -/

theorem separateWords_of_no_capital (beforePrevious previous : Option Char) {cs : List Char}
    (hcs : ∀ c ∈ cs, isCapital c = false) : separateWords beforePrevious previous cs = cs := by
  induction cs generalizing beforePrevious previous with
  | nil => rfl
  | cons c rest ih =>
    have hc : isCapital c = false := hcs c List.mem_cons_self
    have hstarts : startsWord beforePrevious previous c rest.head? = false := by
      simp [startsWord, hc]
    have hlower : lowerAscii c = c := by
      rw [isCapital_eq, Bool.or_eq_false_iff] at hc
      exact lowerAscii_of_isUpper_eq_false hc.1
    have hrest := ih previous (some c) fun d hd => hcs d (List.mem_cons_of_mem c hd)
    rw [separateWords, hstarts, hlower, hrest]
    rfl

theorem corrections_by_underscore : ∀ entry ∈ corrections, '_' ∈ entry.1 := by
  decide +kernel

theorem corrected_of_no_underscore {name : List Char} (hname : '_' ∉ name) :
    corrected name = name := by
  refine corrected_induction (motive := (· = name)) rfl fun entry hentry out hout => ?_
  have habsent : ¬ entry.1 <:+: out := by
    intro hinfix
    exact hname (hout ▸ hinfix.subset (corrections_by_underscore entry hentry))
  rw [Text.replaceFirst_of_absent entry.2 habsent, hout]

theorem moduleChars_of_no_capital {name : List Char} (hname : ∀ c ∈ name, isCapital c = false) :
    moduleChars name = if name.filter (· ≠ '_') = hiddenByImport
      then name.filter (· ≠ '_') ++ ['_'] else name.filter (· ≠ '_') := by
  have hseparated : separated name = name.filter (· ≠ '_') :=
    separateWords_of_no_capital none none fun c hc => hname c (List.mem_filter.mp hc).1
  have hcorrected : corrected (name.filter (· ≠ '_')) = name.filter (· ≠ '_') :=
    corrected_of_no_underscore (by simp)
  rw [moduleChars, hseparated, hcorrected]

/-- **Names in lower case are kept.**  A name without ASCII capitals and digits loses its
    underscores and nothing else, and takes one at its end exactly if the hidden name is left;
    to convert it again changes nothing. -/
theorem moduleName_of_lower_case (name : String)
    (hname : ∀ c ∈ name.toList, c.isUpper = false ∧ c.isDigit = false) :
    moduleName (moduleName name) = moduleName name ∧
    (moduleName name).toList = if name.toList.filter (· ≠ '_') = "gdnative".toList
      then name.toList.filter (· ≠ '_') ++ ['_'] else name.toList.filter (· ≠ '_') := by
  constructor
  · have hagain := moduleChars_moduleChars fun c hc => (hname c hc).1
    rw [← String.toList_inj, toList_moduleName, toList_moduleName, hagain]
  · rw [toList_moduleName]
    apply moduleChars_of_no_capital
    intro c hc
    rw [isCapital_eq, (hname c hc).1, (hname c hc).2, Bool.or_false]

/-- The hidden name, written in two words. -/
theorem moduleName_of_gd_native :
    (∀ c ∈ "gd_native".toList, c.isUpper = false ∧ c.isDigit = false) ∧
    moduleName (moduleName "gd_native") = moduleName "gd_native" ∧
    moduleName "gd_native" = "gdnative_" := by
  have hname : ∀ c ∈ "gd_native".toList, c.isUpper = false ∧ c.isDigit = false := by simp
  obtain ⟨hagain, hchars⟩ := moduleName_of_lower_case "gd_native" hname
  refine ⟨hname, hagain, ?_⟩
  rw [← String.toList_inj, hchars]
  simp

/-- A digit is enough for a separator. -/
example : moduleName "node2" = "node_2" := by decide

end EngineBindings.Naming
