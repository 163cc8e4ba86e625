/-
  EngineBindings/Proofs/Text/Replacement.lean
  ===========================================
  **What replacing a first occurrence returns.**

  A pattern that stands in a list cuts it into what lies before and behind, and its first
  occurrence is the cut with the shortest part before (`FirstOccurrence`).  `replaceFirst`
  returns what this reading says and nothing else (`replaceFirst_eq_iff`).  Arguments about
  corrected texts cut the text at the pattern and never open the recursion.
-/
import EngineBindings.Text.Affix

namespace EngineBindings.Text

/-! ### First occurrences -/

/-- `pattern` stands in `cs` between `front` and `back`, and nowhere further to the left. -/
structure FirstOccurrence (pattern cs front back : List Char) : Prop where
  split : cs = front ++ pattern ++ back
  earliest : ∀ front' back', cs = front' ++ pattern ++ back' → front.length ≤ front'.length

theorem FirstOccurrence.at_start {pattern cs back : List Char} (hsplit : cs = pattern ++ back) :
    FirstOccurrence pattern cs [] back where
  split := hsplit
  earliest := fun front' _ _ => Nat.zero_le front'.length

theorem FirstOccurrence.cons {pattern cs front back : List Char} {c : Char}
    (hstart : ¬ pattern <+: c :: cs) (hfirst : FirstOccurrence pattern cs front back) :
    FirstOccurrence pattern (c :: cs) (c :: front) back where
  split := by rw [hfirst.split]; rfl
  earliest := by
    intro front' back' hsplit
    cases front' with
    | nil => exact absurd ⟨back', hsplit.symm⟩ hstart
    | cons d front' =>
      injection hsplit with _ htail
      exact Nat.succ_le_succ (hfirst.earliest front' back' htail)

theorem FirstOccurrence.isInfix {pattern cs front back : List Char}
    (hfirst : FirstOccurrence pattern cs front back) : pattern <:+: cs :=
  ⟨front, back, hfirst.split.symm⟩

theorem FirstOccurrence.unique {pattern cs front back front' back' : List Char}
    (hfirst : FirstOccurrence pattern cs front back)
    (hfirst' : FirstOccurrence pattern cs front' back') : front = front' ∧ back = back' := by
  have hlength : front.length = front'.length :=
    Nat.le_antisymm (hfirst.earliest front' back' hfirst'.split)
      (hfirst'.earliest front back hfirst.split)
  have hsplit : front ++ (pattern ++ back) = front' ++ (pattern ++ back') := by
    rw [← List.append_assoc, ← List.append_assoc, ← hfirst.split, ← hfirst'.split]
  obtain ⟨hfront, hrest⟩ := List.append_inj hsplit hlength
  exact ⟨hfront, List.append_cancel_left hrest⟩

/-! ### The replacement -/

/-- `out` is `cs` with its first `pattern` replaced, or `cs` itself if there is none. -/
def FirstReplaced (pattern replacement cs out : List Char) : Prop :=
  (∃ front back, FirstOccurrence pattern cs front back ∧ out = front ++ replacement ++ back) ∨
    (¬ pattern <:+: cs ∧ out = cs)

theorem FirstReplaced.unique {pattern replacement cs out out' : List Char}
    (hout : FirstReplaced pattern replacement cs out)
    (hout' : FirstReplaced pattern replacement cs out') : out = out' := by
  rcases hout with ⟨front, back, hfirst, rfl⟩ | ⟨habsent, rfl⟩
  · rcases hout' with ⟨front', back', hfirst', rfl⟩ | ⟨habsent, _⟩
    · obtain ⟨rfl, rfl⟩ := hfirst.unique hfirst'
      rfl
    · exact absurd hfirst.isInfix habsent
  · rcases hout' with ⟨_, _, hfirst', _⟩ | ⟨_, rfl⟩
    · exact absurd hfirst'.isInfix habsent
    · rfl

theorem afterChars?_eq_none_iff (start cs : List Char) :
    afterChars? start cs = none ↔ ¬ start <+: cs := by
  rw [Option.eq_none_iff_forall_ne_some]
  constructor
  · rintro hnone ⟨back, hsplit⟩
    exact hnone back ((afterChars?_eq_some_iff start cs back).mpr hsplit.symm)
  · intro hstart back hsome
    exact hstart ⟨back, ((afterChars?_eq_some_iff start cs back).mp hsome).symm⟩

theorem firstReplaced_replaceFirst (pattern replacement cs : List Char) :
    FirstReplaced pattern replacement cs (replaceFirst pattern replacement cs) := by
  induction cs with
  | nil =>
    rw [replaceFirst]
    cases hafter : afterChars? pattern [] with
    | some back =>
      have hsplit := (afterChars?_eq_some_iff pattern [] back).mp hafter
      exact Or.inl ⟨[], back, .at_start hsplit, rfl⟩
    | none =>
      have hstart := (afterChars?_eq_none_iff pattern []).mp hafter
      exact Or.inr ⟨fun hinfix => hstart (List.infix_nil.mp hinfix ▸ List.nil_prefix), rfl⟩
  | cons c rest ih =>
    rw [replaceFirst]
    cases hafter : afterChars? pattern (c :: rest) with
    | some back =>
      have hsplit := (afterChars?_eq_some_iff pattern (c :: rest) back).mp hafter
      exact Or.inl ⟨[], back, .at_start hsplit, rfl⟩
    | none =>
      -- not at the start, so the first occurrence is that of the rest, one character further
      have hstart := (afterChars?_eq_none_iff pattern (c :: rest)).mp hafter
      rcases ih with ⟨front, back, hfirst, hout⟩ | ⟨habsent, hout⟩
      · exact Or.inl ⟨c :: front, back, hfirst.cons hstart, congrArg (c :: ·) hout⟩
      · refine Or.inr ⟨fun hinfix => ?_, congrArg (c :: ·) hout⟩
        exact (List.infix_cons_iff.mp hinfix).elim hstart habsent

/-- Replacing the first occurrence gives what its reading says and nothing else. -/
theorem replaceFirst_eq_iff (pattern replacement cs out : List Char) :
    replaceFirst pattern replacement cs = out ↔ FirstReplaced pattern replacement cs out :=
  ⟨fun heq => heq ▸ firstReplaced_replaceFirst pattern replacement cs,
    fun hout => (firstReplaced_replaceFirst pattern replacement cs).unique hout⟩

theorem replaceFirst_of_absent {pattern cs : List Char} (replacement : List Char)
    (habsent : ¬ pattern <:+: cs) : replaceFirst pattern replacement cs = cs :=
  (replaceFirst_eq_iff pattern replacement cs cs).mpr (Or.inr ⟨habsent, rfl⟩)

/-! ### What a replacement keeps -/

/-- What a view cannot tell apart in any surroundings, it cannot tell apart after a
    replacement. -/
theorem replaceFirst_keeps {α : Type} (view : List Char → α) {pattern replacement : List Char}
    (halike : ∀ front back,
      view (front ++ replacement ++ back) = view (front ++ pattern ++ back)) (cs : List Char) :
    view (replaceFirst pattern replacement cs) = view cs := by
  rcases firstReplaced_replaceFirst pattern replacement cs with
    ⟨front, back, hfirst, hout⟩ | ⟨_, hout⟩
  · rw [hout, hfirst.split]
    exact halike front back
  · rw [hout]

/-- A character that does not end a list ends it after the replacement exactly if the pattern
    that was replaced did. -/
theorem getLast?_replaceFirst_iff {pattern replacement cs : List Char} {c : Char}
    (hlast : cs.getLast? ≠ some c) (hreplacement : replacement.getLast? = some c) :
    (replaceFirst pattern replacement cs).getLast? = some c ↔
      ∃ front, FirstOccurrence pattern cs front [] := by
  rcases firstReplaced_replaceFirst pattern replacement cs with
    ⟨front, back, hfirst, hout⟩ | ⟨habsent, hout⟩
  · cases back with
    | nil =>
      rw [hout, List.append_nil, List.getLast?_append, hreplacement]
      exact iff_of_true rfl ⟨front, hfirst⟩
    | cons d back =>
      -- both lists end as `d :: back` does
      rw [hfirst.split, List.getLast?_append, List.getLast?_cons, Option.some_or] at hlast
      rw [hout, List.getLast?_append, List.getLast?_cons, Option.some_or]
      refine iff_of_false hlast ?_
      rintro ⟨front', hfirst'⟩
      cases (hfirst.unique hfirst').2
  · rw [hout]
    exact iff_of_false hlast fun ⟨_, hfirst⟩ => habsent hfirst.isInfix

end EngineBindings.Text
