/-
  EngineBindings/Proofs/Enum/Acceptance.lean
  ==========================================
  **Which entries of a document are enums.**

  The documentation describes an entry for an enum: an object with a name, a list of objects
  with a name and an integer each, and a mark for bitfields.  `Describes` says this of the
  entry as data, without reading it.  Reading an entry succeeds exactly on what is described
  (`Declaration.ofJson_eq_ok_iff`), and every other entry is refused for a reason that is
  reported.

  Two shapes are accepted beside the list, since nothing is found in them: an empty text and an
  empty object.  What stands in a text or an object that is not empty has no fields.
-/
import EngineBindings.Proofs.Enum.Refusal
import EngineBindings.Proofs.Json.TextKeys

namespace EngineBindings.Enum

/-! ### The documented shape -/

/-- An item of the list gives an enumerator: it is an object that has a name, which is not
    empty, and an integer of 32 bits. -/
structure GivesEnumerator (item name : Json) (value : Int) : Prop where
  name_field : item.field? "name" = some name
  value_field : item.field? "value" = some (.int value)
  named : name.isEmpty = false
  low : -2147483648 ≤ value
  high : value ≤ 2147483647

inductive ListsItems (entry : Json) : List Json → Prop
  | absent (hfield : entry.field? "values" = none) : ListsItems entry []
  | emptyText (hfield : entry.field? "values" = some (.string "")) : ListsItems entry []
  | emptyObject (hfield : entry.field? "values" = some (.object [])) : ListsItems entry []
  | list {items : List Json} (hfield : entry.field? "values" = some (.array items)) :
      ListsItems entry items

/-- An entry has the documented shape and describes an enum by name, enumerators and kind. -/
structure Describes (entry name : Json) (values : List (Json × Int)) (isBitfield : Bool) :
    Prop where
  name_field : entry.field? "name" = some name
  named : name.isEmpty = false
  enumerators : ∃ items, ListsItems entry items ∧
    List.Forall₂ (fun item value => GivesEnumerator item value.1 value.2) items values
  kind : isBitfield = true ↔
    ∃ mark, entry.field? "is_bitfield" = some mark ∧ mark.isEmpty = false
  zero_free : isBitfield = true → ∀ value ∈ values, value.1 ≠ .string "UNSET"

/-! ### Enumerators -/

theorem checkOrdinal_eq_ok_iff {owner : Owner} {value : Json} {n : { n : Int // Fits n }} :
    checkOrdinal owner value = .ok n ↔ value = .int n := by
  cases value with
  | int m =>
    rw [checkOrdinal]
    by_cases hfits : Fits m
    · rw [dif_pos hfits]
      simp [Subtype.ext_iff]
    · rw [dif_neg hfits]
      refine iff_of_false (by simp) ?_
      rintro ⟨⟩
      exact hfits n.2
  | _ => simp [checkOrdinal]

theorem Enumerator.make_eq_ok_iff {name value : Json} {v : Enumerator} :
    Enumerator.make name value = .ok v ↔
      name.isEmpty = false ∧ v.name = name ∧ value = .int v.value := by
  obtain ⟨vName, n, hfits⟩ := v
  unfold Enumerator.make
  cases hempty : name.isEmpty with
  | true => exact iff_of_false nofun nofun
  | false =>
    change checkOrdinal (.enumerator name) value >>= _ = _ ↔ _
    rw [bind_eq_ok_iff]
    constructor
    · rintro ⟨⟨m, hm⟩, hcheck, hpure⟩
      cases hpure
      exact ⟨rfl, rfl, checkOrdinal_eq_ok_iff.mp hcheck⟩
    · rintro ⟨-, rfl, hvalue⟩
      exact ⟨⟨n, hfits⟩, checkOrdinal_eq_ok_iff.mpr hvalue, rfl⟩

namespace Declaration

theorem requireField_eq_ok_iff {key : String} {entry value : Json} :
    requireField key entry = .ok value ↔ entry.field? key = some value := by
  cases entry with
  | object fields =>
    rw [requireField, Json.field?]
    cases Dictionary.get? key fields <;> simp
  | _ => simp [requireField, Json.field?]

theorem readEnumerator_eq_ok_iff {entry item : Json} {v : Enumerator} :
    readEnumerator entry item = .ok v ↔ GivesEnumerator item v.name v.value := by
  unfold readEnumerator
  simp only [bind_eq_ok_iff, mapError_eq_ok_iff, requireField_eq_ok_iff,
    Enumerator.make_eq_ok_iff]
  constructor
  · rintro ⟨name, hname, value, hvalue, hnamed, rfl, rfl⟩
    exact ⟨hname, hvalue, hnamed, v.fits.1, v.fits.2⟩
  · intro hgives
    exact ⟨v.name, hgives.name_field, .int v.value, hgives.value_field, hgives.named, rfl, rfl⟩

/-! ### Items -/

theorem elements?_of_listsItems {entry : Json} {items : List Json}
    (hlists : ListsItems entry items) :
    ((entry.field? "values").getD (.array [])).elements? = some items := by
  cases hlists with
  | absent hfield => simp [hfield, Json.elements?]
  | emptyText hfield => simp [hfield, Json.elements?]
  | emptyObject hfield => simp [hfield, Json.elements?]
  | list hfield => simp [hfield, Json.elements?]

/-- Whatever is walked over, the items that give enumerators are those of a list, because a
    text has no fields. -/
theorem listsItems_of_elements? {entry : Json} {items : List Json}
    (hwalk : ((entry.field? "values").getD (.array [])).elements? = some items)
    (hfields : ∀ item ∈ items, ∃ name, item.field? "name" = some name) :
    ListsItems entry items := by
  have hno_text : ∀ s, .string s ∉ items := by
    intro s hs
    obtain ⟨name, hname⟩ := hfields _ hs
    cases hname
  cases hvalues : entry.field? "values" with
  | none =>
    rw [hvalues] at hwalk
    cases hwalk
    exact .absent hvalues
  | some values =>
    rw [hvalues, Option.getD_some] at hwalk
    rcases Json.cases_of_elements? hwalk hno_text with rfl | ⟨rfl, rfl | rfl⟩
    · exact .list hvalues
    · exact .emptyText hvalues
    · exact .emptyObject hvalues

/-! ### Declarations -/

theorem make_eq_ok_iff {name : Json} {values : List Enumerator} {isBitfield : Bool}
    {declaration : Declaration} :
    make name values isBitfield = .ok declaration ↔
      name.isEmpty = false ∧
        (isBitfield = true → ∀ v ∈ values, v.name ≠ .string "UNSET") ∧
        declaration = ⟨name, values, isBitfield⟩ := by
  have hreserved : (isBitfield && values.any fun v => v.name == .string zeroName) = true ↔
      ¬ (isBitfield = true → ∀ v ∈ values, v.name ≠ .string "UNSET") := by
    simp [Json.beq_string_iff, zeroName]
  unfold make
  cases hempty : name.isEmpty with
  | true => exact iff_of_false nofun nofun
  | false =>
    rw [if_neg Bool.false_ne_true]
    split
    · rename_i hbad
      exact iff_of_false nofun fun h => hreserved.mp hbad h.2.1
    · rename_i hgood
      rw [hreserved, not_not] at hgood
      simp only [Except.ok.injEq, true_and]
      constructor
      · rintro rfl
        exact ⟨hgood, rfl⟩
      · rintro ⟨-, rfl⟩
        rfl

def pairs (declaration : Declaration) : List (Json × Int) :=
  declaration.values.map fun v => (v.name, v.value)

/-- The steps of reading an entry, all of which succeed. -/
theorem ofJson_steps {entry : Json} {declaration : Declaration} :
    ofJson entry = .ok declaration ↔
      ∃ name items values, entry.field? "name" = some name ∧
        ((entry.field? "values").getD (.array [])).elements? = some items ∧
        items.mapM (readEnumerator entry) = .ok values ∧
        make name values (!((entry.field? "is_bitfield").getD (.bool false)).isEmpty) =
          .ok declaration := by
  unfold ofJson
  simp only [bind_eq_ok_iff, mapError_eq_ok_iff, requireField_eq_ok_iff]
  cases ((entry.field? "values").getD (.array [])).elements? with
  | none =>
    refine iff_of_false ?_ ?_
    · rintro ⟨name, -, hthrow⟩
      cases hthrow
    · rintro ⟨name, items, values, -, hwalk, -⟩
      cases hwalk
  | some items =>
    constructor
    · rintro ⟨name, hname, hrest⟩
      change items.mapM (readEnumerator entry) >>= _ = _ at hrest
      obtain ⟨values, hread, hmake⟩ := bind_eq_ok_iff.mp hrest
      exact ⟨name, items, values, hname, rfl, hread, hmake⟩
    · rintro ⟨name, _, values, hname, ⟨⟩, hread, hmake⟩
      refine ⟨name, hname, ?_⟩
      change items.mapM (readEnumerator entry) >>= _ = _
      exact bind_eq_ok_iff.mpr ⟨values, hread, hmake⟩

/-- Whether an entry is marked as a bitfield. -/
theorem mark_iff {entry : Json} :
    (!((entry.field? "is_bitfield").getD (.bool false)).isEmpty) = true ↔
      ∃ mark, entry.field? "is_bitfield" = some mark ∧ mark.isEmpty = false := by
  cases entry.field? "is_bitfield" with
  | none => simp [Json.isEmpty]
  | some mark => simp

/-- Reading an entry gives the enum that the entry describes, and no other. -/
theorem ofJson_eq_ok_iff {entry : Json} {declaration : Declaration} :
    ofJson entry = .ok declaration ↔
      Describes entry declaration.name declaration.pairs declaration.isBitfield := by
  rw [ofJson_steps]
  constructor
  · rintro ⟨name, items, values, hname, hwalk, hread, hmake⟩
    obtain ⟨hnamed, hfree, rfl⟩ := make_eq_ok_iff.mp hmake
    have hgives : List.Forall₂ (fun item v => GivesEnumerator item v.name v.value) items values :=
      (mapM_eq_ok_iff.mp hread).imp fun _ _ => readEnumerator_eq_ok_iff.mp
    have hlists : ListsItems entry items := by
      apply listsItems_of_elements? hwalk
      intro item hitem
      obtain ⟨v, hv⟩ := exists_ok_of_mapM hread item hitem
      exact ⟨v.name, (readEnumerator_eq_ok_iff.mp hv).name_field⟩
    refine ⟨hname, hnamed, ⟨items, hlists, ?_⟩, mark_iff, ?_⟩
    · rw [pairs, List.forall₂_map_right_iff]
      exact hgives
    · intro hkind value hvalue
      obtain ⟨v, hv, rfl⟩ := List.mem_map.mp hvalue
      exact hfree hkind v hv
  · rintro ⟨hname, hnamed, ⟨items, hlists, hgives⟩, hkind, hfree⟩
    rw [pairs, List.forall₂_map_right_iff] at hgives
    refine ⟨declaration.name, items, declaration.values, hname, elements?_of_listsItems hlists,
      mapM_eq_ok_iff.mpr (hgives.imp fun _ _ => readEnumerator_eq_ok_iff.mpr), ?_⟩
    have hmark : (!((entry.field? "is_bitfield").getD (.bool false)).isEmpty) =
        declaration.isBitfield := by
      rw [Bool.eq_iff_iff, mark_iff, hkind]
    rw [hmark]
    apply make_eq_ok_iff.mpr
    refine ⟨hnamed, ?_, rfl⟩
    intro hbits v hv
    exact hfree hbits _ (List.mem_map_of_mem hv)

/-- What is described can be declared: the numbers fit. -/
theorem exists_declaration {entry name : Json} {values : List (Json × Int)} {isBitfield : Bool}
    (hdescribes : Describes entry name values isBitfield) :
    ∃ declaration : Declaration, declaration.name = name ∧ declaration.pairs = values ∧
      declaration.isBitfield = isBitfield := by
  obtain ⟨items, -, hgives⟩ := hdescribes.enumerators
  have henumerators : ∃ enumerators : List Enumerator,
      enumerators.map (fun v => (v.name, v.value)) = values := by
    clear hdescribes
    induction hgives with
    | nil => exact ⟨[], rfl⟩
    | @cons item value items values hitem _ ih =>
      obtain ⟨rest, hrest⟩ := ih
      exact ⟨⟨value.1, value.2, hitem.low, hitem.high⟩ :: rest, by rw [List.map_cons, hrest]⟩
  obtain ⟨enumerators, hvalues⟩ := henumerators
  exact ⟨⟨name, enumerators, isBitfield⟩, rfl, hvalues, rfl⟩

/-- Which entries of a document are enums, and what becomes of the others.  An entry is read as
    an enum exactly when it has the documented shape, and then as the enum that it describes:
    name, enumerators in order and with repetitions, and kind.  Every other entry is refused,
    and the cause is one that is reported. -/
theorem accepted_iff_described (entry : Json) :
    (∀ declaration : Declaration, ofJson entry = .ok declaration ↔
        Describes entry declaration.name declaration.pairs declaration.isBitfield) ∧
      ((∃ declaration, ofJson entry = .ok declaration) ↔
        ∃ name values isBitfield, Describes entry name values isBitfield) ∧
      ((∃ e, ofJson entry = .error e ∧ e.isReported = true) ↔
        ¬ ∃ name values isBitfield, Describes entry name values isBitfield) := by
  have hread : (∃ declaration, ofJson entry = .ok declaration) ↔
      ∃ name values isBitfield, Describes entry name values isBitfield := by
    constructor
    · rintro ⟨declaration, hok⟩
      exact ⟨_, _, _, ofJson_eq_ok_iff.mp hok⟩
    · rintro ⟨name, values, isBitfield, hdescribes⟩
      obtain ⟨declaration, rfl, rfl, rfl⟩ := exists_declaration hdescribes
      exact ⟨declaration, ofJson_eq_ok_iff.mpr hdescribes⟩
  refine ⟨fun declaration => ofJson_eq_ok_iff, hread, ?_⟩
  rw [← hread]
  cases hresult : ofJson entry with
  | ok declaration => exact iff_of_false nofun fun hnone => hnone ⟨declaration, rfl⟩
  | error e =>
    refine iff_of_true ⟨e, rfl, ?_⟩ nofun
    by_contra hreported
    exact faults_reported entry ⟨e, hresult, by simpa [Error.Unreported] using hreported⟩

/-- Nothing is found in an empty text, so it may stand for the list. -/
example : ofJson (.object [("name", .string "Error"), ("values", .string "")]) =
    .ok ⟨.string "Error", [], false⟩ := rfl

end Declaration

end EngineBindings.Enum
