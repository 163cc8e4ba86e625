/-
  EngineBindings/Proofs/Text/Newline.lean
  =======================================
  **Normal line endings are normal for good.**

  A text in which no carriage return is left is its own normal form, and the normal form of
  any text has none; so a file that was written in normal form is read back as itself.

  The normal form is also what one scan from left to right gives (`turnReturns_joinPairs`).  The
  scan looks one character ahead, so it may be cut anywhere but between a carriage return and its
  line feed: there the two parts give one line feed more than the whole
  (`unixNewlines_by_one_scan`).
-/
import EngineBindings.Text.Newline

namespace EngineBindings.Text

theorem joinPairs_of_no_return (cs : List Char) (hnone : '\r' ∉ cs) : joinPairs cs = cs := by
  induction cs with
  | nil => rfl
  | cons c rest ih =>
    have hc : c ≠ '\r' := fun h => hnone (h ▸ List.mem_cons_self)
    have hrest : '\r' ∉ rest := fun h => hnone (List.mem_cons_of_mem _ h)
    rw [joinPairs.eq_3 c rest (fun tail hreturn => absurd hreturn hc), ih hrest]

theorem turnReturns_of_no_return (cs : List Char) (hnone : '\r' ∉ cs) : turnReturns cs = cs := by
  rw [turnReturns]
  refine (List.map_congr_left ?_).trans (List.map_id cs)
  intro c hc
  rw [if_neg (fun h : c = '\r' => hnone (h ▸ hc))]
  rfl

theorem return_not_mem_turnReturns (cs : List Char) : '\r' ∉ turnReturns cs := by
  intro hmem
  obtain ⟨c, -, heq⟩ := List.mem_map.mp hmem
  by_cases hc : c = '\r'
  · rw [if_pos hc] at heq
    exact absurd heq (by decide)
  · rw [if_neg hc] at heq
    exact hc heq

theorem return_not_mem_unixNewlines (text : String) : '\r' ∉ (unixNewlines text).toList := by
  rw [unixNewlines, String.toList_ofList]
  exact return_not_mem_turnReturns _

theorem unixNewlines_of_no_return {text : String} (hnone : '\r' ∉ text.toList) :
    unixNewlines text = text := by
  rw [unixNewlines, joinPairs_of_no_return _ hnone, turnReturns_of_no_return _ hnone,
    String.ofList_toList]

theorem unixNewlines_unixNewlines (text : String) :
    unixNewlines (unixNewlines text) = unixNewlines text :=
  unixNewlines_of_no_return (return_not_mem_unixNewlines text)

/-! ### One scan -/

theorem turnReturns_joinPairs (cs : List Char) : turnReturns (joinPairs cs) = scanNewlines cs := by
  fun_induction scanNewlines cs with
  | case1 => rfl
  | case2 rest ih =>
    rw [joinPairs, turnReturns, List.map_cons, ← turnReturns, ih]
    rfl
  | case3 rest halone ih =>
    have hpair : ∀ tail, '\r' = '\r' → rest = '\n' :: tail → False := fun tail _ => halone tail
    rw [joinPairs.eq_3 _ _ hpair, turnReturns, List.map_cons, ← turnReturns, ih, if_pos rfl]
  | case4 c rest _ hc ih =>
    have hpair : ∀ tail, c = '\r' → rest = '\n' :: tail → False := fun tail h => absurd h hc
    rw [joinPairs.eq_3 _ _ hpair, turnReturns, List.map_cons, ← turnReturns, ih, if_neg hc]

theorem toList_unixNewlines (text : String) :
    (unixNewlines text).toList = scanNewlines text.toList := by
  rw [unixNewlines, String.toList_ofList, turnReturns_joinPairs]

theorem mem_scanNewlines {c : Char} {cs : List Char} (hc : c ∈ scanNewlines cs) :
    c ∈ cs ∨ c = '\n' := by
  fun_induction scanNewlines cs with
  | case1 => exact Or.inl hc
  | case2 rest ih =>
    rcases List.mem_cons.mp hc with hfeed | hrest
    · exact Or.inr hfeed
    · exact (ih hrest).imp_left fun h => List.mem_cons_of_mem _ (List.mem_cons_of_mem _ h)
  | case3 rest halone ih =>
    rcases List.mem_cons.mp hc with hfeed | hrest
    · exact Or.inr hfeed
    · exact (ih hrest).imp_left fun h => List.mem_cons_of_mem _ h
  | case4 d rest _ hd ih =>
    rcases List.mem_cons.mp hc with hsame | hrest
    · exact Or.inl (hsame ▸ List.mem_cons_self)
    · exact (ih hrest).imp_left fun h => List.mem_cons_of_mem _ h

/-- Apart from line feeds, a normal form has the characters of the text alone. -/
theorem mem_unixNewlines {c : Char} {text : String} (hc : c ∈ (unixNewlines text).toList) :
    c ∈ text.toList ∨ c = '\n' := by
  rw [toList_unixNewlines] at hc
  exact mem_scanNewlines hc

/-! ### Where a text may be cut -/

/-- A text ends in a carriage return whose line feed begins the next one. -/
def SplitPair (front back : List Char) : Prop :=
  front.getLast? = some '\r' ∧ back.head? = some '\n'

theorem SplitPair.cons {c : Char} {front back : List Char} (hsplit : SplitPair front back) :
    SplitPair (c :: front) back := by
  obtain ⟨hlast, hhead⟩ := hsplit
  refine ⟨?_, hhead⟩
  rw [List.getLast?_cons, hlast]
  rfl

theorem scanNewlines_append {front back : List Char} (hwhole : ¬ SplitPair front back) :
    scanNewlines (front ++ back) = scanNewlines front ++ scanNewlines back := by
  fun_induction scanNewlines front with
  | case1 => rfl
  | case2 rest ih =>
    have hrest : ¬ SplitPair rest back := fun h => hwhole h.cons.cons
    rw [List.cons_append, List.cons_append, scanNewlines, ih hrest, List.cons_append]
  | case3 rest halone ih =>
    have hrest : ¬ SplitPair rest back := fun h => hwhole h.cons
    -- the line feed of the carriage return could only be the first character behind the cut
    have hpair : ∀ tail, rest ++ back = '\n' :: tail → False := by
      intro tail htail
      cases rest with
      | nil => exact hwhole ⟨rfl, by rw [← List.nil_append back, htail]; rfl⟩
      | cons c rest => exact halone rest (by rw [(List.cons.inj htail).1])
    rw [List.cons_append, scanNewlines.eq_3 _ hpair, ih hrest, List.cons_append]
  | case4 c rest hpair hc ih =>
    have hrest : ¬ SplitPair rest back := fun h => hwhole h.cons
    rw [List.cons_append, scanNewlines.eq_4 _ _ (fun tail h => absurd h hc) hc, ih hrest,
      List.cons_append]

/-- The parts of a pair that is cut in two make a line feed each. -/
theorem length_scanNewlines_of_splitPair {front back : List Char}
    (hsplit : SplitPair front back) :
    (scanNewlines front ++ scanNewlines back).length =
      (scanNewlines (front ++ back)).length + 1 := by
  obtain ⟨hlast, hhead⟩ := hsplit
  obtain ⟨front, rfl⟩ := List.getLast?_eq_some_iff.mp hlast
  obtain ⟨back, rfl⟩ := List.head?_eq_some_iff.mp hhead
  have hbefore : ∀ rest, ¬ SplitPair front ('\r' :: rest) := by
    rintro rest ⟨-, hreturn⟩
    exact absurd (Option.some.inj hreturn) (by decide)
  have hfeed : scanNewlines ('\n' :: back) = '\n' :: scanNewlines back :=
    scanNewlines.eq_4 _ _ (by simp) (by decide)
  have hfront := scanNewlines_append (hbefore [])
  have hwhole := scanNewlines_append (hbefore ('\n' :: back))
  rw [List.append_assoc, List.singleton_append, hwhole, hfront, hfeed]
  simp only [scanNewlines, List.length_append, List.length_cons, List.length_nil]
  omega

/-- Unix line endings are those that one scan from left to right writes.  No carriage return is
    left, so a text is its own normal form exactly when it has none, and a normal form is.  Two
    texts may be brought to normal form one by one exactly when the border between them does not
    part a carriage return from its line feed. -/
theorem unixNewlines_by_one_scan :
    (∀ text, unixNewlines text = String.ofList (scanNewlines text.toList) ∧
      '\r' ∉ (unixNewlines text).toList ∧ (unixNewlines text = text ↔ '\r' ∉ text.toList) ∧
      unixNewlines (unixNewlines text) = unixNewlines text) ∧
    ∀ front back, unixNewlines (front ++ back) = unixNewlines front ++ unixNewlines back ↔
      ¬ (front.toList.getLast? = some '\r' ∧ back.toList.head? = some '\n') := by
  constructor
  · intro text
    refine ⟨?_, return_not_mem_unixNewlines text, ⟨?_, unixNewlines_of_no_return⟩,
      unixNewlines_unixNewlines text⟩
    · rw [unixNewlines, turnReturns_joinPairs]
    · intro hsame
      rw [← hsame]
      exact return_not_mem_unixNewlines text
  · intro front back
    rw [← String.toList_inj, String.toList_append, toList_unixNewlines, toList_unixNewlines,
      toList_unixNewlines, String.toList_append]
    constructor
    · intro hsame hsplit
      have hlonger := length_scanNewlines_of_splitPair hsplit
      rw [← hsame] at hlonger
      omega
    · exact scanNewlines_append

end EngineBindings.Text
