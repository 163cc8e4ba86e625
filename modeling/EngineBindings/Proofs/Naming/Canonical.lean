/-
  EngineBindings/Proofs/Naming/Canonical.lean
  ===========================================
  **The conversion changes case and underscores only.**

  Everything that turns a class name into a module name either puts an underscore in, takes
  one out, or writes an ASCII capital small: the separators before words, the corrections of
  single spellings, and the underscore behind a hidden name.  So a module name without its
  underscores is the class name without its underscores, in lower case
  (`moduleChars_filter`), and two classes share a module only if their names agree up to
  ASCII case and underscores.

  A character that is neither a letter nor an underscore is in the module name exactly when it
  is in the class name; for the slash, which the path of a module is read by, this is
  `slash_mem_moduleName_iff`.
-/
import EngineBindings.Naming.ModuleName
import EngineBindings.Proofs.Text.Replacement

namespace EngineBindings.Naming

/-! ### Character classes -/

/-- The capitals of the conversion are the ASCII capitals and the digits. -/
theorem isCapital_eq (c : Char) : isCapital c = (c.isUpper || c.isDigit) := by
  have hupper : c.isUpper = ('A' ≤ c && c ≤ 'Z') := Bool.decide_and ..
  rw [isCapital, hupper]
  rfl

theorem isLower_eq (c : Char) : isLower c = c.isLower := rfl

theorem isLower_of_isCapital {c : Char} (hcapital : isCapital c = true) : isLower c = false := by
  simp only [isCapital, Bool.or_eq_true, Bool.and_eq_true, decide_eq_true_eq] at hcapital
  have hlow : c.toNat ≤ 90 := by
    rcases hcapital with ⟨_, hupper⟩ | ⟨_, hdigit⟩
    · exact hupper
    · have hdigit' : c.toNat ≤ 57 := hdigit
      omega
  rw [isLower, Bool.and_eq_false_iff, decide_eq_false_iff_not]
  refine Or.inl fun hlower => ?_
  have hhigh : 97 ≤ c.toNat := hlower
  omega

/-! ### Small letters -/

theorem toNat_lowerAscii_of_capital {c : Char} (hcapital : 'A' ≤ c ∧ c ≤ 'Z') :
    (lowerAscii c).toNat = c.toNat + 32 := by
  have hlow : 65 ≤ c.toNat := hcapital.1
  have hhigh : c.toNat ≤ 90 := hcapital.2
  have hvalid : (c.toNat + 32).isValidChar := Or.inl (by omega)
  have hcond : ('A' ≤ c && c ≤ 'Z') = true := by
    rw [Bool.and_eq_true, decide_eq_true_eq, decide_eq_true_eq]
    exact hcapital
  rw [lowerAscii, if_pos hcond, Char.ofNat, dif_pos hvalid]
  rfl

theorem lowerAscii_of_not_capital {c : Char} (hother : ¬ ('A' ≤ c ∧ c ≤ 'Z')) :
    lowerAscii c = c := by
  simp only [lowerAscii, Bool.and_eq_true, decide_eq_true_eq]
  rw [if_neg hother]

theorem lowerAscii_of_isUpper_eq_false {c : Char} (hc : c.isUpper = false) : lowerAscii c = c :=
  lowerAscii_of_not_capital (of_decide_eq_false hc)

theorem lowerAscii_eq_toLower (c : Char) : lowerAscii c = c.toLower := by
  by_cases hcapital : c.val ≥ 'A'.val ∧ c.val ≤ 'Z'.val
  · have hhigh : c.val.toNat ≤ 90 := hcapital.2
    have hsum : (c.val + 32).toNat = c.val.toNat + 32 := by
      rw [UInt32.toNat_add]
      exact Nat.mod_eq_of_lt (by change c.val.toNat + 32 < 2 ^ 32; omega)
    have hval : c.toLower.val = c.val + 32 := congrArg Char.val (dif_pos hcapital)
    apply Char.toNat_inj.mp
    calc (lowerAscii c).toNat = c.val.toNat + 32 := toNat_lowerAscii_of_capital hcapital
      _ = (c.val + 32).toNat := hsum.symm
      _ = c.toLower.toNat := congrArg UInt32.toNat hval.symm
  · have hval : c.toLower = c := dif_neg hcapital
    rw [hval]
    exact lowerAscii_of_not_capital hcapital

/-- A character that is no small letter comes from itself alone. -/
theorem lowerAscii_eq_iff {c d : Char} (hsmall : ¬ (97 ≤ d.toNat ∧ d.toNat ≤ 122))
    (hcapital : ¬ ('A' ≤ d ∧ d ≤ 'Z')) : lowerAscii c = d ↔ c = d := by
  by_cases hc : 'A' ≤ c ∧ c ≤ 'Z'
  · have hlow : 65 ≤ c.toNat := hc.1
    have hhigh : c.toNat ≤ 90 := hc.2
    constructor
    · intro heq
      have hnat := toNat_lowerAscii_of_capital hc
      rw [heq] at hnat
      exact absurd ⟨by omega, by omega⟩ hsmall
    · intro heq
      exact absurd (heq ▸ hc) hcapital
  · rw [lowerAscii_of_not_capital hc]

theorem lowerAscii_eq_underscore_iff (c : Char) : lowerAscii c = '_' ↔ c = '_' :=
  lowerAscii_eq_iff (by decide) (by decide)

theorem lowerAscii_eq_slash_iff (c : Char) : lowerAscii c = '/' ↔ c = '/' :=
  lowerAscii_eq_iff (by decide) (by decide)

/-! ### The steps of the conversion -/

/-- Separating words puts in underscores and writes small; the characters seen before do not
    matter to what is left without the underscores. -/
theorem filter_separateWords (beforePrevious previous : Option Char) (cs : List Char) :
    (separateWords beforePrevious previous cs).filter (· ≠ '_') =
      (cs.map lowerAscii).filter (· ≠ '_') := by
  induction cs generalizing beforePrevious previous with
  | nil => rfl
  | cons c rest ih =>
    have hseparator : (if startsWord beforePrevious previous c rest.head? then ['_'] else
        ([] : List Char)).filter (· ≠ '_') = [] := by
      split <;> simp
    rw [separateWords, List.filter_append, hseparator, List.nil_append, List.map_cons,
      List.filter_cons, List.filter_cons, ih]

theorem filter_separated (className : List Char) :
    (separated className).filter (· ≠ '_') = canonical className := by
  rw [separated, filter_separateWords, canonical, List.filter_eq_self]
  intro d hd
  obtain ⟨c, hc, rfl⟩ := List.mem_map.mp hd
  have hne : c ≠ '_' := by simpa using (List.mem_filter.mp hc).2
  simpa [lowerAscii_eq_underscore_iff] using hne

/-- What holds of a name and outlives every correction holds of the corrected name. -/
theorem corrected_induction {motive : List Char → Prop} {name : List Char} (hname : motive name)
    (hstep : ∀ entry ∈ corrections, ∀ out, motive out →
      motive (Text.replaceFirst entry.1 entry.2 out)) : motive (corrected name) :=
  List.foldlRecOn corrections _ hname fun out hout entry hentry => hstep entry hentry out hout

/-- A view that takes every spelling for its correction takes a name for the corrected one. -/
theorem corrected_keeps {α : Type} (view : List Char → α)
    (halike : ∀ entry ∈ corrections, ∀ front back,
      view (front ++ entry.2 ++ back) = view (front ++ entry.1 ++ back)) (name : List Char) :
    view (corrected name) = view name := by
  refine corrected_induction (motive := fun out => view out = view name) rfl
    fun entry hentry out hout => ?_
  rw [Text.replaceFirst_keeps view (halike entry hentry) out]
  exact hout

theorem corrections_alike : ∀ entry ∈ corrections,
    entry.2.filter (· ≠ '_') = entry.1.filter (· ≠ '_') := by
  decide +kernel

theorem filter_corrected (name : List Char) :
    (corrected name).filter (· ≠ '_') = name.filter (· ≠ '_') := by
  apply corrected_keeps (List.filter (· ≠ '_'))
  intro entry hentry front back
  simp only [List.filter_append, corrections_alike entry hentry]

/-! ### The whole conversion -/

theorem moduleChars_cases (className : List Char) :
    (corrected (separated className) = hiddenByImport ∧
      moduleChars className = corrected (separated className) ++ ['_']) ∨
    (corrected (separated className) ≠ hiddenByImport ∧
      moduleChars className = corrected (separated className)) := by
  by_cases hhidden : corrected (separated className) = hiddenByImport
  · exact Or.inl ⟨hhidden, if_pos hhidden⟩
  · exact Or.inr ⟨hhidden, if_neg hhidden⟩

theorem toList_moduleName (className : String) :
    (moduleName className).toList = moduleChars className.toList :=
  String.toList_ofList

/-- A module name without its underscores is the class name without its underscores, in lower
    case. -/
theorem moduleChars_filter (className : List Char) :
    (moduleChars className).filter (· ≠ '_') = canonical className := by
  have hbare := (filter_corrected (separated className)).trans (filter_separated className)
  rcases moduleChars_cases className with ⟨_, hname⟩ | ⟨_, hname⟩
  · rw [hname, List.filter_append, hbare]
    exact List.append_nil _
  · rw [hname, hbare]

/-- Without underscores, the module name is the class name in lower case: no other character is
    put in, left out, moved or changed. -/
theorem moduleName_without_underscores (className : String) :
    (moduleName className).toList.filter (· ≠ '_') =
      (className.toList.filter (· ≠ '_')).map Char.toLower := by
  rw [toList_moduleName, moduleChars_filter, canonical]
  exact List.map_congr_left fun c _ => lowerAscii_eq_toLower c

/-- Two names with one module agree up to ASCII case and underscores. -/
theorem canonical_eq_of_moduleName_eq {name other : String}
    (hmodule : moduleName name = moduleName other) :
    canonical name.toList = canonical other.toList := by
  rw [← moduleChars_filter name.toList, ← toList_moduleName, hmodule, toList_moduleName,
    moduleChars_filter]

theorem slash_mem_canonical_iff (className : List Char) :
    '/' ∈ canonical className ↔ '/' ∈ className := by
  simp [canonical, lowerAscii_eq_slash_iff]

theorem slash_mem_moduleName_iff (name : String) :
    '/' ∈ (moduleName name).toList ↔ '/' ∈ name.toList := by
  rw [toList_moduleName, ← slash_mem_canonical_iff name.toList, ← moduleChars_filter name.toList]
  simp

end EngineBindings.Naming
