/-
  EngineBindings/Proofs/Enum/Ordinal.lean
  =======================================
  **What an ordinal remembers of its enum.**

  An ordinal carries the name and the kind of its enum, and nothing else of it.  So these two
  decide whether two ordinals combine (`Ordinal.or_of_not_bitfield`,
  `Ordinal.or_of_names_apart`, `Ordinal.or_of_sameName`); the number never does, since the bits
  of two numbers that fit make a number that fits (`fits_bitOr`).

  All constants of a definition carry the name and the kind of the definition
  (`Definition.uniform_of_json`).
-/
import Mathlib
import EngineBindings.Proofs.Dictionary
import EngineBindings.Proofs.Enum.Refusal

namespace EngineBindings.Enum

/-! ### Bits that fit -/

theorem fits_ofNat_iff {m : Nat} : Fits (.ofNat m) ↔ m < 2 ^ 31 := by
  unfold Fits
  rw [Int.ofNat_eq_natCast]
  omega

/-- Of a negative number the bits of its complement count. -/
theorem fits_negSucc_iff {m : Nat} : Fits (.negSucc m) ↔ m < 2 ^ 31 := by
  unfold Fits
  omega

theorem fits_bitOr {a b : Int} (ha : Fits a) (hb : Fits b) : Fits (bitOr a b) := by
  -- one case for each pair of signs, as `bitOr` has it
  cases a with
  | ofNat m =>
    rw [fits_ofNat_iff] at ha
    cases b with
    | ofNat n =>
      rw [fits_ofNat_iff] at hb
      exact fits_ofNat_iff.mpr (Nat.or_lt_two_pow ha hb)
    | negSucc n =>
      rw [fits_negSucc_iff] at hb
      exact fits_negSucc_iff.mpr (Nat.xor_lt_two_pow hb (Nat.and_lt_two_pow _ ha))
  | negSucc m =>
    rw [fits_negSucc_iff] at ha
    cases b with
    | ofNat n =>
      rw [fits_ofNat_iff] at hb
      exact fits_negSucc_iff.mpr (Nat.xor_lt_two_pow ha (Nat.and_lt_two_pow _ hb))
    | negSucc n =>
      rw [fits_negSucc_iff] at hb
      exact fits_negSucc_iff.mpr (Nat.and_lt_two_pow _ hb)

/-! ### Combining -/

/-- Two names agree, and the first is a value that agrees with itself. -/
def SameName (first second : Json) : Prop :=
  (first == second) = true ∧ first.isNaN = false

instance (first second : Json) : Decidable (SameName first second) :=
  inferInstanceAs (Decidable (_ ∧ _))

namespace Ordinal

variable {a b : Ordinal}

theorem or_of_not_bitfield (hbits : ¬ (a.isBitfield = true ∧ b.isBitfield = true)) :
    a.or b = .error (.notBitfield a.enum) := by
  unfold Ordinal.or
  rw [if_pos]
  rw [Bool.not_eq_true', Bool.eq_false_iff, ne_eq, Bool.and_eq_true]
  exact hbits

theorem or_of_names_apart (ha : a.isBitfield = true) (hb : b.isBitfield = true)
    (hnames : ¬ SameName a.enum b.enum) : a.or b = .error (.differentEnums a.enum b.enum) := by
  have happart : (!(a.enum == b.enum) || a.enum.isNaN) = true := by
    unfold SameName at hnames
    cases hagree : a.enum == b.enum with
    | false => rfl
    | true => simpa [hagree] using hnames
  unfold Ordinal.or
  rw [ha, hb, happart]
  rfl

theorem or_of_sameName (ha : a.isBitfield = true) (hb : b.isBitfield = true)
    (hnames : SameName a.enum b.enum) :
    a.or b = .ok ⟨a.enum, bitOr a.value b.value, true, fits_bitOr a.fits b.fits⟩ := by
  have hfits : Fits (bitOr a.value b.value) := fits_bitOr a.fits b.fits
  unfold Ordinal.or
  rw [ha, hb, hnames.1, hnames.2]
  simp only [make, checkOrdinal, dif_pos hfits, bind, Except.bind, pure, Except.pure, Bool.and_self,
    Bool.not_true, Bool.or_self, Bool.false_eq_true, if_false]

end Ordinal

/-! ### The constants of a definition -/

namespace Definition

/-- An ordinal is a constant of a definition: one of an enumerator, or the zero constant. -/
def HasConstant (d : Definition) (o : Ordinal) : Prop :=
  (∃ name, (name, o) ∈ d.enumerators) ∨ d.unset = some o

/-- What is looked up by name is a constant. -/
theorem hasConstant_of_constant {d : Definition} {name : Json} {o : Ordinal}
    (hok : d.constant name = .ok o) : d.HasConstant o := by
  unfold constant at hok
  split at hok
  · cases hok
  · split at hok
    · rename_i found hfound
      cases hok
      obtain ⟨key, hmem⟩ := Dictionary.mem_of_get? hfound
      unfold constants at hmem
      split at hmem
      · rename_i zero hzero
        rcases Dictionary.mem_insert hmem with hvalue | hdeclared
        · right
          rw [hvalue]
          exact hzero
        · left
          exact Dictionary.mem_ofPairs hdeclared
      · left
        exact Dictionary.mem_ofPairs hmem
    · cases hok

def Uniform (d : Definition) : Prop :=
  ∀ o, d.HasConstant o → o.enum = d.name ∧ o.isBitfield = d.isBitfield

theorem eq_of_make {name : Json} {enumerators : List (Json × Ordinal)} {isBitfield : Bool}
    {unset : Option Ordinal} {d : Definition}
    (hok : make name enumerators isBitfield unset = .ok d) :
    d = ⟨name, enumerators, isBitfield, unset, "i32", "i64"⟩ := by
  unfold make at hok
  split at hok
  · cases hok
  · split at hok
    · cases hok
    · exact (Except.ok.inj hok).symm

/-- The definition of a declaration in full: nothing is dropped, renamed or reordered. -/
def declared (declaration : Declaration) : Definition :=
  ⟨declaration.name, declaration.values.map fun v => (v.name, declaration.constant v),
    declaration.isBitfield,
    if declaration.isBitfield then some (.unset declaration.name) else none, "i32", "i64"⟩

theorem eq_of_declaration {declaration : Declaration} {d : Definition}
    (hok : ofDeclaration declaration = .ok d) : d = declared declaration := by
  rw [ofDeclaration, mapM_ordinals_eq_ok] at hok
  exact eq_of_make hok

theorem uniform_of_declaration {declaration : Declaration} {d : Definition}
    (hok : ofDeclaration declaration = .ok d) : d.Uniform := by
  rw [eq_of_declaration hok]
  rintro o (⟨name, hmem⟩ | hunset)
  · obtain ⟨v, -, hv⟩ := List.mem_map.mp hmem
    cases hv
    exact ⟨rfl, rfl⟩
  · unfold declared at hunset ⊢
    dsimp only at hunset
    split at hunset
    · rename_i hbits
      cases hunset
      exact ⟨rfl, hbits.symm⟩
    · cases hunset

theorem uniform_of_json {entry : Json} {d : Definition} (hok : ofJson entry = .ok d) :
    d.Uniform := by
  obtain ⟨declaration, -, hmade⟩ := bind_eq_ok_iff.mp hok
  exact uniform_of_declaration hmade

end Definition

end EngineBindings.Enum
