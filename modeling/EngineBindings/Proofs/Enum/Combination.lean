/-
  EngineBindings/Proofs/Enum/Combination.lean
  ===========================================
  **What the values of a bitfield come to when they are combined.**

  A combination is a tree with values at its leaves and an OR at each inner node.  Between
  values of bitfields that have one name no OR is refused, and the number of the result is the
  OR of the words in which 32-bit storage keeps the numbers of the leaves
  (`Combination.evaluate_eq_ok`).  A bit of that OR is a bit of some word, so only the set of
  the numbers counts, and zeros do not count at all (`anyBits_congr`).

  The one name with which no value combines is the number that differs from itself
  (`nan_combines_with_nothing`): a document may hold it, and then an enum is called by it.
-/
import EngineBindings.Proofs.Enum.Ordinal

namespace EngineBindings.Enum

/-! ### Words -/

def Ordinal.word (o : Ordinal) : BitVec 32 := BitVec.ofInt 32 o.value

/-- In storage of any width the OR of two integers is the OR of their words. -/
theorem ofInt_bitOr (width : Nat) (a b : Int) :
    BitVec.ofInt width (bitOr a b) = BitVec.ofInt width a ||| BitVec.ofInt width b := by
  -- one case for each pair of signs, as `bitOr` has it; the word of a complement is the
  -- complement of a word
  cases a with
  | ofNat m =>
    cases b with
    | ofNat n => simp only [bitOr, Int.ofNat_eq_natCast, BitVec.ofInt_natCast, BitVec.ofNat_or]
    | negSucc n =>
      simp only [bitOr, Int.ofNat_eq_natCast, BitVec.ofInt_natCast,
        BitVec.ofInt_negSucc_eq_not_ofNat, BitVec.ofNat_xor, BitVec.ofNat_and]
      ext i hi
      simp only [BitVec.getElem_not, BitVec.getElem_xor, BitVec.getElem_and, BitVec.getElem_or]
      cases (BitVec.ofNat width m)[i] <;> cases (BitVec.ofNat width n)[i] <;> rfl
  | negSucc m =>
    cases b with
    | ofNat n =>
      simp only [bitOr, Int.ofNat_eq_natCast, BitVec.ofInt_natCast,
        BitVec.ofInt_negSucc_eq_not_ofNat, BitVec.ofNat_xor, BitVec.ofNat_and]
      ext i hi
      simp only [BitVec.getElem_not, BitVec.getElem_xor, BitVec.getElem_and, BitVec.getElem_or]
      cases (BitVec.ofNat width m)[i] <;> cases (BitVec.ofNat width n)[i] <;> rfl
    | negSucc n =>
      simp only [bitOr, BitVec.ofInt_negSucc_eq_not_ofNat, BitVec.ofNat_and, BitVec.not_and]

theorem toInt_ofInt_of_fits {n : Int} (hfits : Fits n) : (BitVec.ofInt 32 n).toInt = n := by
  obtain ⟨hlow, hhigh⟩ := hfits
  apply BitVec.toInt_ofInt_eq_self (by decide)
  · omega
  · omega

theorem Ordinal.toInt_word (o : Ordinal) : o.word.toInt = o.value := toInt_ofInt_of_fits o.fits

def anyBits (words : List (BitVec 32)) : BitVec 32 := words.foldr (· ||| ·) 0

theorem anyBits_append (xs ys : List (BitVec 32)) :
    anyBits (xs ++ ys) = anyBits xs ||| anyBits ys := by
  induction xs with
  | nil => simp [anyBits]
  | cons x xs ih =>
    simp only [anyBits, List.cons_append, List.foldr_cons] at ih ⊢
    rw [ih, BitVec.or_assoc]

theorem getLsbD_anyBits (words : List (BitVec 32)) (i : Nat) :
    (anyBits words).getLsbD i = true ↔ ∃ word ∈ words, word.getLsbD i = true := by
  induction words with
  | nil => simp [anyBits]
  | cons word rest ih =>
    simp only [anyBits, List.foldr_cons, BitVec.getLsbD_or, Bool.or_eq_true] at ih ⊢
    rw [ih]
    simp

/-- Lists with the same words apart from zero have one OR. -/
theorem anyBits_congr {xs ys : List (BitVec 32)} (h : ∀ word, word ≠ 0 → (word ∈ xs ↔ word ∈ ys)) :
    anyBits xs = anyBits ys := by
  -- a word with a bit is not zero
  have hne : ∀ (word : BitVec 32) (i : Nat), word.getLsbD i = true → word ≠ 0 := by
    rintro word i hbit rfl
    simp at hbit
  apply BitVec.eq_of_getLsbD_eq
  intro i _
  rw [Bool.eq_iff_iff, getLsbD_anyBits, getLsbD_anyBits]
  constructor
  · rintro ⟨word, hmem, hbit⟩
    exact ⟨word, (h word (hne word i hbit)).mp hmem, hbit⟩
  · rintro ⟨word, hmem, hbit⟩
    exact ⟨word, (h word (hne word i hbit)).mpr hmem, hbit⟩

/-! ### Combinations -/

/-- All names of a list are one name: any two of them agree. -/
def OneName (names : List Json) : Prop :=
  ∀ first ∈ names, ∀ second ∈ names, SameName first second

theorem OneName.mono {names others : List Json} (hone : OneName others)
    (hsub : names ⊆ others) : OneName names := by
  intro first hfirst second hsecond
  exact hone first (hsub hfirst) second (hsub hsecond)

/-- A way to combine values, two at a time: with the operator, or by a definition. -/
inductive Combination where
  | value (o : Ordinal)
  | or (left right : Combination)
  | combine (left right : Combination)

namespace Combination

def leaves : Combination → List Ordinal
  | value o => [o]
  | or left right => left.leaves ++ right.leaves
  | combine left right => left.leaves ++ right.leaves

def first : Combination → Ordinal
  | value o => o
  | or left _ => left.first
  | combine left _ => left.first

def evaluate (d : Definition) : Combination → Except Error Ordinal
  | value o => .ok o
  | or left right => do
    let a ← left.evaluate d
    let b ← right.evaluate d
    a.or b
  | combine left right => do
    let a ← left.evaluate d
    let b ← right.evaluate d
    d.combine a b

def words (t : Combination) : List (BitVec 32) := t.leaves.map Ordinal.word

def names (t : Combination) : List Json := t.leaves.map Ordinal.enum

theorem words_or (left right : Combination) :
    (left.or right).words = left.words ++ right.words :=
  List.map_append

theorem first_mem_leaves (t : Combination) : t.first ∈ t.leaves := by
  induction t with
  | value o => simp [first, leaves]
  | or left right ihl ihr => simp [first, leaves, ihl]
  | combine left right ihl ihr => simp [first, leaves, ihl]

theorem first_mem_names (t : Combination) : t.first.enum ∈ t.names :=
  List.mem_map_of_mem t.first_mem_leaves

/-- What is known of the value of a combination: the name is that of the first leaf, and the
    bits are those of all leaves. -/
structure Value (t : Combination) (c : Ordinal) : Prop where
  enum : c.enum = t.first.enum
  isBitfield : c.isBitfield = true
  word : c.word = anyBits t.words

/-- One OR: two parts that have values with one name have a value together. -/
theorem evaluate_or_eq_ok {d : Definition} {left right : Combination}
    (hone : OneName (left.names ++ right.names))
    (hleft : ∃ a, left.evaluate d = .ok a ∧ left.Value a)
    (hright : ∃ b, right.evaluate d = .ok b ∧ right.Value b) :
    ∃ c, (left.or right).evaluate d = .ok c ∧ (left.or right).Value c := by
  obtain ⟨a, ha, haValue⟩ := hleft
  obtain ⟨b, hb, hbValue⟩ := hright
  have hname : SameName a.enum b.enum := by
    rw [haValue.enum, hbValue.enum]
    exact hone _ (List.mem_append_left _ left.first_mem_names) _
      (List.mem_append_right _ right.first_mem_names)
  have hor := Ordinal.or_of_sameName haValue.isBitfield hbValue.isBitfield hname
  refine ⟨⟨a.enum, bitOr a.value b.value, true, fits_bitOr a.fits b.fits⟩, ?_, haValue.enum,
    rfl, ?_⟩
  · rw [evaluate, ha, hb]
    exact hor
  · calc BitVec.ofInt 32 (bitOr a.value b.value)
        = a.word ||| b.word := ofInt_bitOr 32 a.value b.value
      _ = anyBits left.words ||| anyBits right.words := by rw [haValue.word, hbValue.word]
      _ = anyBits (left.or right).words := by rw [words_or, anyBits_append]

/-- Values of bitfields with one name combine in every way. -/
theorem evaluate_eq_ok (d : Definition) {t : Combination}
    (hbits : ∀ o ∈ t.leaves, o.isBitfield = true) (hone : OneName t.names) :
    ∃ c, t.evaluate d = .ok c ∧ t.Value c := by
  induction t with
  | value o =>
    refine ⟨o, rfl, rfl, hbits o List.mem_cons_self, ?_⟩
    simp [words, leaves, anyBits]
  | or left right ihl ihr =>
    simp only [leaves, List.mem_append] at hbits
    simp only [names, leaves, List.map_append] at hone
    apply evaluate_or_eq_ok hone
    · exact ihl (fun o ho => hbits o (Or.inl ho)) (hone.mono (List.subset_append_left _ _))
    · exact ihr (fun o ho => hbits o (Or.inr ho)) (hone.mono (List.subset_append_right _ _))
  | combine left right ihl ihr =>
    -- a definition combines as the operator does
    simp only [leaves, List.mem_append] at hbits
    simp only [names, leaves, List.map_append] at hone
    have hleft := ihl (fun o ho => hbits o (Or.inl ho)) (hone.mono (List.subset_append_left _ _))
    have hright := ihr (fun o ho => hbits o (Or.inr ho))
      (hone.mono (List.subset_append_right _ _))
    obtain ⟨c, hc, hvalue⟩ := evaluate_or_eq_ok hone hleft hright
    exact ⟨c, hc, hvalue.enum, hvalue.isBitfield, hvalue.word⟩

/-! ### Combinations of the values of one bitfield -/

/-- A leaf may be a constant of the definition or any other value of a bitfield, and all of
    them carry one name with the definition. -/
structure IsOver (t : Combination) (d : Definition) : Prop where
  leaf : ∀ o ∈ t.leaves, d.HasConstant o ∨ o.isBitfield = true
  oneName : OneName (d.name :: t.names)

theorem IsOver.isBitfield {t : Combination} {d : Definition} (hover : t.IsOver d)
    (huniform : d.Uniform) (hkind : d.isBitfield = true) :
    ∀ o ∈ t.leaves, o.isBitfield = true := by
  intro o ho
  rcases hover.leaf o ho with hconstant | hbits
  · rw [(huniform o hconstant).2]
    exact hkind
  · exact hbits

/-- The two combinations have the same numbers at their leaves, but for zeros. -/
def SameNumbers (s t : Combination) : Prop :=
  ∀ n, n ≠ 0 → ((∃ o ∈ s.leaves, o.value = n) ↔ ∃ o ∈ t.leaves, o.value = n)

theorem SameNumbers.anyBits_eq {s t : Combination} (hsame : s.SameNumbers t) :
    anyBits s.words = anyBits t.words := by
  apply anyBits_congr
  intro word hne
  have hword : ∀ o : Ordinal, o.word = word ↔ o.value = word.toInt := by
    intro o
    rw [← BitVec.toInt_inj, o.toInt_word]
  have hzero : word.toInt ≠ 0 := by
    intro hzero
    apply hne
    rw [← BitVec.toInt_inj, hzero]
    rfl
  simp only [words, List.mem_map, hword]
  exact hsame word.toInt hzero

/-- What a combination of values of one bitfield comes to.  No OR in it is refused; the result
    is a value of the bitfield with a number that fits, and the number is what the OR of the
    words of the leaves reads as.  Nothing else counts: a second combination with the same
    numbers at its leaves, however ordered, bracketed or repeated, and with or without zeros,
    has the same result. -/
theorem evaluate_of_isOver (declaration : Declaration) (d : Definition)
    (hok : Definition.ofDeclaration declaration = .ok d) (hkind : d.isBitfield = true)
    (t : Combination) (hover : t.IsOver d) :
    ∃ c, t.evaluate d = .ok c ∧ SameName d.name c.enum ∧ c.isBitfield = true ∧
      -2 ^ 31 ≤ c.value ∧ c.value ≤ 2 ^ 31 - 1 ∧ c.value = (anyBits t.words).toInt ∧
      ∀ other : Combination, other.IsOver d → OneName (t.names ++ other.names) →
        t.SameNumbers other → ∃ c', other.evaluate d = .ok c' ∧ (c == c') = true := by
  have huniform := Definition.uniform_of_declaration hok
  obtain ⟨c, hc, hvalue⟩ := evaluate_eq_ok d (hover.isBitfield huniform hkind)
    (hover.oneName.mono (List.subset_cons_self _ _))
  have hnumber : c.value = (anyBits t.words).toInt := by rw [← hvalue.word, c.toInt_word]
  have hname : SameName d.name c.enum := by
    rw [hvalue.enum]
    exact hover.oneName _ List.mem_cons_self _ (List.mem_cons_of_mem _ t.first_mem_names)
  refine ⟨c, hc, hname, hvalue.isBitfield, c.fits.1, c.fits.2, hnumber, ?_⟩
  intro other hother hone hsame
  obtain ⟨c', hc', hvalue'⟩ := evaluate_eq_ok d (hother.isBitfield huniform hkind)
    (hother.oneName.mono (List.subset_cons_self _ _))
  have hnumber' : c'.value = c.value := by
    rw [hnumber, hsame.anyBits_eq, ← hvalue'.word, c'.toInt_word]
  have hnames : SameName c.enum c'.enum := by
    rw [hvalue.enum, hvalue'.enum]
    exact hone _ (List.mem_append_left _ t.first_mem_names) _
      (List.mem_append_right _ other.first_mem_names)
  refine ⟨c', hc', ?_⟩
  change c.agrees c' = true
  simp [Ordinal.agrees, hnames.1, hnumber', hvalue.isBitfield, hvalue'.isBitfield]

def signedDeclaration : Declaration :=
  ⟨.string "Signed", [⟨.string "LOW", 8, by decide⟩,
    ⟨.string "SIGN", -2147483648, by decide⟩], true⟩

def signed (n : Int) (fits : Fits n) : Ordinal := ⟨.string "Signed", n, true, fits⟩

def signedDefinition : Definition :=
  ⟨.string "Signed", [(.string "LOW", signed 8 (by decide)),
    (.string "SIGN", signed (-2147483648) (by decide))], true,
    some (.unset (.string "Signed")), "i32", "i64"⟩

/-- Both constants, the zero constant and a value that is none of the three. -/
def signedCombination : Combination :=
  .combine (.or (.value (signed 8 (by decide))) (.value (.unset (.string "Signed"))))
    (.or (.value (signed (-2147483648) (by decide))) (.value (signed 6 (by decide))))

/-- The same without the zero constant, in another order and with a repetition. -/
def signedAgain : Combination :=
  .or (.value (signed 6 (by decide))) (.combine (.value (signed (-2147483648) (by decide)))
    (.or (.value (signed 8 (by decide))) (.value (signed 6 (by decide)))))

theorem isOver_signedCombination : signedCombination.IsOver signedDefinition := by
  constructor
  · have hbits : ∀ o ∈ signedCombination.leaves, o.isBitfield = true := by decide
    exact fun o ho => Or.inr (hbits o ho)
  · unfold OneName
    decide

theorem isOver_signedAgain : signedAgain.IsOver signedDefinition := by
  constructor
  · have hbits : ∀ o ∈ signedAgain.leaves, o.isBitfield = true := by decide
    exact fun o ho => Or.inr (hbits o ho)
  · unfold OneName
    decide

theorem sameNumbers_signed : signedCombination.SameNumbers signedAgain := by
  intro n hn
  simp only [signedCombination, signedAgain, signed, Ordinal.unset, leaves, List.cons_append,
    List.nil_append, List.mem_cons, List.not_mem_nil, or_false, exists_eq_or_imp,
    exists_eq_left]
  omega

/-- With the sign bit set the number is negative: both combinations are -2147483648 + 8 + 6. -/
theorem evaluate_signedCombination :
    Definition.ofDeclaration signedDeclaration = .ok signedDefinition ∧
      signedCombination.IsOver signedDefinition ∧ signedAgain.IsOver signedDefinition ∧
      signedCombination.SameNumbers signedAgain ∧
      ∃ c, signedCombination.evaluate signedDefinition = .ok c ∧ c.value = -2147483634 ∧
        ∃ c', signedAgain.evaluate signedDefinition = .ok c' ∧ (c == c') = true := by
  have hone : OneName (signedCombination.names ++ signedAgain.names) := by
    unfold OneName
    decide
  obtain ⟨c, hc, -, -, -, -, hnumber, hagain⟩ := evaluate_of_isOver signedDeclaration
    signedDefinition rfl rfl signedCombination isOver_signedCombination
  refine ⟨rfl, isOver_signedCombination, isOver_signedAgain, sameNumbers_signed, c, hc, ?_,
    hagain signedAgain isOver_signedAgain hone sameNumbers_signed⟩
  rw [hnumber]
  decide

/-- A bitfield named by the number that differs from itself, with one constant: an OR of the
    constant with itself is refused, as one between two enums. -/
theorem nan_combines_with_nothing :
    ∃ d o, Definition.ofJson (.object [("name", .float .nan), ("is_bitfield", .bool true),
        ("values", .array [.object [("name", .string "FIRST"), ("value", .int 1)]])]) = .ok d ∧
      d.isBitfield = true ∧ d.constant (.string "FIRST") = .ok o ∧
      (Combination.or (.value o) (.value o)).evaluate d =
        .error (.differentEnums (.float .nan) (.float .nan)) :=
  ⟨_, ⟨.float .nan, 1, true, by decide⟩, rfl, rfl, rfl, rfl⟩

end Combination

end EngineBindings.Enum
