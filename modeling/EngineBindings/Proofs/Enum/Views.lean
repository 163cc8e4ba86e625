/-
  EngineBindings/Proofs/Enum/Views.lean
  =====================================
  **A definition shows what was declared.**

  A definition is seen in five ways: as its constants in order, as their names, as the fields
  that templates print, as a constant under a name and as a number under a name.  The first
  three are the declaration itself, with nothing dropped, merged or reordered.  The last two
  find the last enumerator of a name; the zero constant of a bitfield is found under a name of
  its own, which no accepted declaration gives to an enumerator.

  Whatever is accepted as a declaration has a definition, as long as its enumerators are named
  by texts (`Definition.ofDeclaration_eq_ok`): the checks that a definition makes were made on
  the entry.
-/
import EngineBindings.Proofs.Enum.Acceptance
import EngineBindings.Proofs.Enum.Ordinal

namespace EngineBindings.Enum

namespace Declaration

def ValuesNamedByTexts (declaration : Declaration) : Prop :=
  ∀ v ∈ declaration.values, ∃ s, v.name = .string s

theorem zero_free_of_ofJson {entry : Json} {declaration : Declaration}
    (hread : ofJson entry = .ok declaration) (hbits : declaration.isBitfield = true) :
    ∀ v ∈ declaration.values, v.name ≠ .string zeroName := by
  intro v hv
  exact (ofJson_eq_ok_iff.mp hread).zero_free hbits _ (List.mem_map_of_mem hv)

end Declaration

namespace Definition

theorem make_eq_ok {name : Json} {enumerators : List (Json × Ordinal)} {isBitfield : Bool}
    {unset : Option Ordinal} (hkeys : ∀ pair ∈ enumerators, pair.1.isKey = true)
    (hfree : unset.isSome = true → ∀ pair ∈ enumerators, pair.1 ≠ .string zeroName) :
    make name enumerators isBitfield unset =
      .ok ⟨name, enumerators, isBitfield, unset, "i32", "i64"⟩ := by
  unfold make
  split
  · rename_i bad ordinal hfind
    have hbad : bad.isKey = false := by simpa using List.find?_some hfind
    exact absurd (hkeys _ (List.mem_of_find?_eq_some hfind)) (by simp [hbad])
  · rw [if_neg]
    intro hreserved
    rw [Bool.and_eq_true, List.any_eq_true] at hreserved
    obtain ⟨hsome, pair, hpair, hname⟩ := hreserved
    exact hfree hsome pair hpair (Json.beq_string_iff.mp hname)

/-- An accepted declaration has a definition: its numbers fit, its names can be looked up, and
    no enumerator has the name of the zero constant. -/
theorem ofDeclaration_eq_ok {entry : Json} {declaration : Declaration}
    (hread : Declaration.ofJson entry = .ok declaration)
    (htexts : declaration.ValuesNamedByTexts) :
    ofDeclaration declaration = .ok (declared declaration) := by
  rw [ofDeclaration, mapM_ordinals_eq_ok]
  apply make_eq_ok
  · intro pair hpair
    obtain ⟨v, hv, rfl⟩ := List.mem_map.mp hpair
    obtain ⟨s, hs⟩ := htexts v hv
    simp [hs, Json.isKey]
  · intro hzero pair hpair
    obtain ⟨v, hv, rfl⟩ := List.mem_map.mp hpair
    apply Declaration.zero_free_of_ofJson hread _ v hv
    cases hbits : declaration.isBitfield with
    | true => rfl
    | false => simp [hbits] at hzero

/-! ### Looking up -/

/-- The zero constant is looked up as if it were declared after all others. -/
theorem constants_eq (d : Definition) :
    d.constants = Dictionary.ofPairs
      (d.enumerators ++ d.unset.toList.map fun zero => (.string zeroName, zero)) := by
  unfold constants
  cases d.unset with
  | none => simp
  | some zero => simp [Dictionary.ofPairs_concat]

theorem constant_text (d : Definition) (n : String) :
    d.constant (.string n) =
      match Dictionary.get? (.string n) d.constants with
      | some o => .ok o
      | none => .error (.unknownConstant (.string n)) := rfl

section

variable {declaration : Declaration} (htexts : declaration.ValuesNamedByTexts)

theorem ordinals_declared : (declared declaration).ordinals =
    Dictionary.ofPairs (declaration.values.map fun v => (v.name, v.value)) := by
  rw [ordinals, declared, List.map_map]
  rfl

/-- Pairs made of the enumerators give under a text what the last enumerator of that name
    gives. -/
theorem lastItem_pairs_iff {β : Type} {f : Enumerator → β} {n : String} {value : β} :
    LastItem (fun pair => pair.1 = .string n) (declaration.values.map fun v => (v.name, f v))
        (.string n, value) ↔
      ∃ v, LastItem (fun v => v.name = .string n) declaration.values v ∧ value = f v := by
  rw [lastItem_map_iff]
  constructor
  · rintro ⟨v, hpair, hlast⟩
    exact ⟨v, hlast, (Prod.mk.inj hpair).2.symm⟩
  · rintro ⟨v, hlast, rfl⟩
    refine ⟨v, ?_, hlast⟩
    obtain ⟨-, -, -, hname, -⟩ := hlast
    rw [hname]

include htexts

theorem pairs_named {β : Type} (f : Enumerator → β) :
    ∀ pair ∈ declaration.values.map fun v => (v.name, f v), ∃ s, pair.1 = .string s := by
  intro pair hpair
  obtain ⟨v, hv, rfl⟩ := List.mem_map.mp hpair
  exact htexts v hv

theorem get?_constants_eq_some_iff
    (hfree : declaration.isBitfield = true → ∀ v ∈ declaration.values, v.name ≠ .string zeroName)
    {n : String} {o : Ordinal} :
    Dictionary.get? (.string n) (declared declaration).constants = some o ↔
      (∃ v, LastItem (fun v => v.name = .string n) declaration.values v ∧
        o = declaration.constant v) ∨
      declaration.isBitfield = true ∧ n = zeroName ∧ o = .unset declaration.name := by
  have hpairs := pairs_named htexts declaration.constant
  rw [constants_eq, declared]
  dsimp only
  cases hbits : declaration.isBitfield with
  | false =>
    simp only [Bool.false_eq_true, if_false, Option.toList_none, List.map_nil, List.append_nil,
      false_and, or_false]
    rw [Json.get?_ofPairs_eq_some_iff hpairs, lastItem_pairs_iff]
  | true =>
    simp only [if_true, Option.toList_some, List.map_cons, List.map_nil, true_and]
    rw [Json.get?_ofPairs_eq_some_iff, lastItem_concat_iff, lastItem_pairs_iff]
    · -- the two cases part at the name of the zero constant, which no enumerator has
      constructor
      · rintro (⟨hname, hpair⟩ | ⟨-, hlast⟩)
        · obtain ⟨hn, ho⟩ := Prod.mk.inj hpair
          exact Or.inr ⟨(Json.string.inj hn).symm, ho.symm⟩
        · exact Or.inl hlast
      · rintro (⟨v, hlast, ho⟩ | ⟨rfl, rfl⟩)
        · refine Or.inr ⟨?_, v, hlast, ho⟩
          obtain ⟨front, back, hvalues, hname, -⟩ := hlast
          intro hzero
          exact hfree hbits v (by simp [hvalues]) (hname.trans hzero.symm)
        · exact Or.inl ⟨rfl, rfl⟩
    · intro pair hpair
      rcases List.mem_append.mp hpair with hdeclared | hzero
      · exact hpairs pair hdeclared
      · rw [List.mem_singleton.mp hzero]
        exact ⟨zeroName, rfl⟩

theorem get?_constants_eq_none_iff {n : String} :
    Dictionary.get? (.string n) (declared declaration).constants = none ↔
      (∀ v ∈ declaration.values, v.name ≠ .string n) ∧
        ¬ (declaration.isBitfield = true ∧ n = zeroName) := by
  have hpairs := pairs_named htexts declaration.constant
  rw [constants_eq, declared]
  dsimp only
  rw [Json.get?_ofPairs_eq_none_iff]
  · rw [List.forall_mem_append, List.forall_mem_map]
    refine and_congr_right fun _ => ?_
    cases declaration.isBitfield with
    | false => simp
    | true => simp [eq_comm]
  · intro pair hpair
    rcases List.mem_append.mp hpair with hdeclared | hzero
    · exact hpairs pair hdeclared
    · obtain ⟨zero, -, rfl⟩ := List.mem_map.mp hzero
      exact ⟨zeroName, rfl⟩

end

/-! ### The views -/

structure Shows (d : Definition) (declaration : Declaration) : Prop where
  name : d.name = declaration.name
  isBitfield : d.isBitfield = declaration.isBitfield
  /-- The constants in order, one for each enumerator. -/
  enumerators : d.enumerators =
    declaration.values.map fun v => (v.name, declaration.constant v)
  size : d.enumerators.length = declaration.values.length
  names : d.names = declaration.values.map Enumerator.name
  printed : d.toJson.field? "enumerators" = some (.array (declaration.values.map fun v =>
    .object [("name", v.name), ("value", .int v.value)]))
  /-- Under a name stands the last enumerator of that name, or else the zero constant. -/
  constant : ∀ (n : String) (o : Ordinal), d.constant (.string n) = .ok o ↔
    (∃ v, LastItem (fun v => v.name = .string n) declaration.values v ∧
      o = declaration.constant v) ∨
    declaration.isBitfield = true ∧ n = "UNSET" ∧ o = .unset declaration.name
  unknown : ∀ n : String, d.constant (.string n) = .error (.unknownConstant (.string n)) ↔
    (∀ v ∈ declaration.values, v.name ≠ .string n) ∧
      ¬ (declaration.isBitfield = true ∧ n = "UNSET")
  /-- Under the name of an enumerator stands the number of its constant. -/
  ordinals : ∀ n : String, .string n ∈ d.names →
    ∃ o, d.constant (.string n) = .ok o ∧ Dictionary.get? (.string n) d.ordinals = some o.value
  ordinals_keys : ∀ key : Json, key ∈ Dictionary.keys d.ordinals ↔ key ∈ d.names

theorem names_declared (declaration : Declaration) :
    (declared declaration).names = declaration.values.map Enumerator.name := by
  rw [names, declared, List.map_map]
  rfl

theorem shows_declared {declaration : Declaration} (htexts : declaration.ValuesNamedByTexts)
    (hfree : declaration.isBitfield = true →
      ∀ v ∈ declaration.values, v.name ≠ .string zeroName) :
    (declared declaration).Shows declaration where
  name := rfl
  isBitfield := rfl
  enumerators := rfl
  size := List.length_map _
  names := names_declared declaration
  printed := by
    simp only [toJson, declared, List.map_map]
    rfl
  constant := by
    intro n o
    rw [constant_text, ← zeroName, ← get?_constants_eq_some_iff htexts hfree]
    cases Dictionary.get? (.string n) (declared declaration).constants <;> simp
  unknown := by
    intro n
    rw [constant_text, ← zeroName, ← get?_constants_eq_none_iff htexts]
    cases Dictionary.get? (.string n) (declared declaration).constants <;> simp
  ordinals := by
    intro n hn
    rw [names_declared] at hn
    obtain ⟨v, hv, hname⟩ := List.mem_map.mp hn
    cases hget : Dictionary.get? (.string n) (declared declaration).constants with
    | none => exact absurd hname (((get?_constants_eq_none_iff htexts).mp hget).1 v hv)
    | some o =>
      refine ⟨o, by rw [constant_text, hget], ?_⟩
      rw [ordinals_declared, Json.get?_ofPairs_eq_some_iff (pairs_named htexts _),
        lastItem_pairs_iff]
      rcases (get?_constants_eq_some_iff htexts hfree).mp hget with ⟨w, hlast, rfl⟩ | ⟨hbits, rfl, -⟩
      · exact ⟨w, hlast, rfl⟩
      · exact absurd hname (hfree hbits v hv)
  ordinals_keys := by
    intro key
    rw [ordinals_declared, Json.mem_keys_ofPairs_iff (pairs_named htexts _), names_declared,
      List.map_map]
    rfl

/-- What becomes of an entry that is accepted as a declaration with texts as names: no check of
    the definition fails, and the definition shows the declaration in every view. -/
theorem shows_of_ofJson (entry : Json) (declaration : Declaration)
    (hread : Declaration.ofJson entry = .ok declaration)
    (htexts : ∀ v ∈ declaration.values, ∃ s, v.name = .string s) :
    ∃ d, ofDeclaration declaration = .ok d ∧ d.Shows declaration :=
  ⟨declared declaration, ofDeclaration_eq_ok hread htexts,
    shows_declared htexts (Declaration.zero_free_of_ofJson hread)⟩

/-- A bitfield that declares one name twice and one number under two names. -/
def aliasedEntry : Json :=
  .object [("name", .string "Flags"), ("is_bitfield", .bool true), ("values", .array [
    .object [("name", .string "READ"), ("value", .int 16)],
    .object [("name", .string "WRITE"), ("value", .int 32)],
    .object [("name", .string "READ"), ("value", .int 64)],
    .object [("name", .string "FIRST"), ("value", .int 16)]])]

def aliasedFlags : Declaration :=
  ⟨.string "Flags", [⟨.string "READ", 16, by decide⟩, ⟨.string "WRITE", 32, by decide⟩,
    ⟨.string "READ", 64, by decide⟩, ⟨.string "FIRST", 16, by decide⟩], true⟩

/-- The repeated name stands for its last number, and all four enumerators are kept. -/
theorem shows_aliasedFlags :
    Declaration.ofJson aliasedEntry = .ok aliasedFlags ∧
      ∃ d, ofDeclaration aliasedFlags = .ok d ∧
        d.names = [.string "READ", .string "WRITE", .string "READ", .string "FIRST"] ∧
        d.constant (.string "READ") = .ok ⟨.string "Flags", 64, true, by decide⟩ ∧
        d.constant (.string "UNSET") = .ok (.unset (.string "Flags")) ∧
        d.constant (.string "EXEC") = .error (.unknownConstant (.string "EXEC")) := by
  have hread : Declaration.ofJson aliasedEntry = .ok aliasedFlags := rfl
  have htexts : ∀ v ∈ aliasedFlags.values, ∃ s, v.name = .string s := by
    simp [aliasedFlags]
  obtain ⟨d, hd, hshows⟩ := shows_of_ofJson aliasedEntry aliasedFlags hread htexts
  refine ⟨hread, d, hd, hshows.names, ?_, ?_, ?_⟩
  · refine (hshows.constant _ _).mpr (Or.inl ⟨⟨.string "READ", 64, by decide⟩, ?_, rfl⟩)
    exact ⟨aliasedFlags.values.take 2, aliasedFlags.values.drop 3, rfl, rfl, by simp [aliasedFlags]⟩
  · exact (hshows.constant _ _).mpr (Or.inr ⟨rfl, rfl, rfl⟩)
  · exact (hshows.unknown _).mpr ⟨by simp [aliasedFlags], by decide⟩

end Definition

end EngineBindings.Enum
