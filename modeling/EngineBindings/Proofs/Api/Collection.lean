/-
  EngineBindings/Proofs/Api/Collection.lean
  =========================================
  **What a catalog holds of the description of an API.**

  The entries of the classes are walked over once, and each may put a class into the
  dictionary.  So the classes stand in the order of their first entries with enums, and hold
  the enums of their last ones (`get?_classes_iff`).  An entry without a name leaves a warning
  and nothing else (`log_of_addClasses`).

  The set of classes is made of the names of the same entries, with enums or without, and it
  does not remember their order (`ofApi_eq_ok`).
-/
import EngineBindings.Proofs.Api.Refusal
import EngineBindings.Proofs.Json.TextKeys
import Mathlib.Data.Finset.Card

namespace EngineBindings.Api

/-! ### What an entry says -/

def entryName? (entry : Json) : Option String :=
  match entry.field? "name" with
  | some (.string name) => if name = "" then none else some name
  | _ => none

def ownerName? (entry : Json) : Option String :=
  match entry.field? "enums" with
  | some enums => if enums.isEmpty then none else entryName? entry
  | none => none

def isNameless (entry : Json) : Bool :=
  match entry.field? "name" with
  | some name => name.isEmpty
  | none => true

def NamedByText (entry : Json) : Prop :=
  isNameless entry = false → ∃ name, entry.field? "name" = some (.string name)

/-- An entry lists enums, and these are their definitions in order. -/
def Defines (entry : Json) (made : List Enum.Definition) : Prop :=
  ∃ enums, entry.field? "enums" = some (.array enums) ∧
    List.Forall₂ (fun enum definition => Enum.Definition.ofJson enum = .ok definition) enums made

theorem className?_eq_none_iff {entry : Json} :
    className? entry = none ↔ isNameless entry = true := by
  unfold className? isNameless
  cases entry.field? "name" with
  | none => simp
  | some name => simp

theorem className?_eq_map {entry : Json} (htext : NamedByText entry) :
    className? entry = (entryName? entry).map .string := by
  unfold className? entryName?
  cases hname : isNameless entry with
  | true =>
    unfold isNameless at hname
    cases hfield : entry.field? "name" with
    | none => rfl
    | some name =>
      rw [hfield] at hname
      dsimp only at hname
      cases name with
      | string text =>
        cases Json.isEmpty_string_iff.mp hname
        rfl
      | _ => simp [hname]
  | false =>
    obtain ⟨name, hfield⟩ := htext hname
    simp only [isNameless, hfield] at hname
    have hne : name ≠ "" := by
      rintro rfl
      cases hname
    simp [hfield, hname, hne]

/-! ### Reading -/

theorem definitions_eq_ok_iff {entries : List Json} {made : List Enum.Definition} :
    definitions entries = .ok made ↔
      List.Forall₂ (fun entry definition => Enum.Definition.ofJson entry = .ok definition)
        entries made := by
  rw [definitions, mapError_eq_ok_iff, mapM_eq_ok_iff]

/-- What is walked over and has definitions is a list, unless it is empty: a text has no
    definition. -/
theorem array_of_definitions {enums : Json} {entries : List Json} {made : List Enum.Definition}
    (hfull : enums.isEmpty = false) (hwalk : enums.elements? = some entries)
    (hmade : definitions entries = .ok made) : enums = .array entries := by
  have hno_text : ∀ s, .string s ∉ entries := by
    intro s hs
    obtain ⟨definition, hread⟩ := exists_ok_of_mapM (mapError_eq_ok_iff.mp hmade) _ hs
    cases hread
  rcases Json.cases_of_elements? hwalk hno_text with harray | ⟨-, rfl | rfl⟩
  · exact harray
  · cases hfull
  · cases hfull

theorem classDefinitions?_eq_some_iff {entry : Json} {made : List Enum.Definition} :
    classDefinitions? entry = .ok (some made) ↔
      (∃ enums, classEnums? entry = some enums) ∧ Defines entry made := by
  unfold classDefinitions? classEnums? Defines
  cases hfield : entry.field? "enums" with
  | none => exact iff_of_false nofun nofun
  | some enums =>
    cases hempty : enums.isEmpty with
    | true =>
      simp only [Option.filter_some, hempty, Bool.not_true, Bool.false_eq_true, if_false]
      exact iff_of_false nofun nofun
    | false =>
      simp only [Option.filter_some, hempty, Bool.not_false, if_true]
      constructor
      · intro hok
        split at hok
        · rename_i entries hwalk
          obtain ⟨made', hmade, hpure⟩ := bind_eq_ok_iff.mp hok
          cases hpure
          cases array_of_definitions hempty hwalk hmade
          exact ⟨⟨_, rfl⟩, entries, rfl, definitions_eq_ok_iff.mp hmade⟩
        · cases hok
      · rintro ⟨-, entries, henums, hmade⟩
        cases henums
        exact bind_eq_ok_iff.mpr ⟨made, definitions_eq_ok_iff.mpr hmade, rfl⟩

theorem classDefinitions?_eq_none_iff {entry : Json} :
    classDefinitions? entry = .ok none ↔ classEnums? entry = none := by
  unfold classDefinitions? classEnums?
  split
  · rename_i habsent
    exact iff_of_true rfl habsent
  · rename_i enums hsome
    refine iff_of_false ?_ (by simp [hsome])
    split
    · intro hok
      obtain ⟨made, -, hpure⟩ := bind_eq_ok_iff.mp hok
      cases hpure
    · nofun

theorem ownerName?_eq (entry : Json) :
    ownerName? entry = (classEnums? entry).bind fun _ => entryName? entry := by
  unfold ownerName? classEnums?
  cases entry.field? "enums" with
  | none => rfl
  | some enums => cases hempty : enums.isEmpty <;> simp [Option.filter_some, hempty]

/-! ### What one entry comes to -/

/-- The class that an entry puts into the dictionary, if it puts one. -/
def found? (entry : Json) : Option (Json × List Enum.Definition) :=
  (readClass entry).toOption.join

theorem found?_eq_some {entry : Json} {item : Json × List Enum.Definition} :
    found? entry = some item ↔ readClass entry = .ok (some item) := by
  unfold found?
  cases readClass entry with
  | error e => exact iff_of_false nofun nofun
  | ok read => simp [Except.toOption]

section

variable {entry : Json} (htext : NamedByText entry)

include htext

theorem readClass_eq_some_iff {name : Json} {made : List Enum.Definition} :
    readClass entry = .ok (some (name, made)) ↔
      ∃ n, name = .string n ∧ ownerName? entry = some n ∧ Defines entry made := by
  rw [readClass, className?_eq_map htext, ownerName?_eq]
  cases entryName? entry with
  | none => simp
  | some n =>
    rw [Option.map_some]
    cases hclass : classDefinitions? entry with
    | error e =>
      refine iff_of_false (by simp) ?_
      rintro ⟨m, -, howner, hdefines⟩
      obtain ⟨enums, henums, -⟩ := Option.bind_eq_some_iff.mp howner
      rw [classDefinitions?_eq_some_iff.mpr ⟨⟨enums, henums⟩, hdefines⟩] at hclass
      cases hclass
    | ok found =>
      cases found with
      | none => simp [classDefinitions?_eq_none_iff.mp hclass]
      | some defined =>
        obtain ⟨⟨enums, henums⟩, -⟩ := classDefinitions?_eq_some_iff.mp hclass
        have hdefines : Defines entry made ↔ defined = made := by
          have hiff : classDefinitions? entry = .ok (some made) ↔ _ :=
            classDefinitions?_eq_some_iff
          rw [hclass] at hiff
          simpa [henums] using hiff.symm
        rw [hdefines, henums]
        simp [Json.isKey, eq_comm]

/-- An entry of a class that lists enums and is read has definitions. -/
theorem exists_defines {n : String} (howner : ownerName? entry = some n)
    (hread : ∃ item, readClass entry = .ok item) : ∃ made, Defines entry made := by
  obtain ⟨item, hread⟩ := hread
  rw [ownerName?_eq] at howner
  obtain ⟨enums, henums, hname⟩ := Option.bind_eq_some_iff.mp howner
  rw [readClass, className?_eq_map htext, hname, Option.map_some] at hread
  cases hclass : classDefinitions? entry with
  | error e =>
    rw [hclass] at hread
    cases hread
  | ok found =>
    cases found with
    | none =>
      rw [classDefinitions?_eq_none_iff.mp hclass] at henums
      cases henums
    | some made => exact ⟨made, (classDefinitions?_eq_some_iff.mp hclass).2⟩

theorem found?_eq_some_iff {name : Json} {made : List Enum.Definition} :
    found? entry = some (name, made) ↔
      ∃ n, name = .string n ∧ ownerName? entry = some n ∧ Defines entry made := by
  rw [found?_eq_some, readClass_eq_some_iff htext]

theorem map_fst_found? (hread : ∃ item, readClass entry = .ok item) :
    (found? entry).map Prod.fst = (ownerName? entry).map .string := by
  cases howner : ownerName? entry with
  | none =>
    cases hfound : found? entry with
    | none => rfl
    | some item =>
      obtain ⟨n, -, hsome, -⟩ := (found?_eq_some_iff htext).mp hfound
      rw [howner] at hsome
      cases hsome
  | some n =>
    obtain ⟨made, hmade⟩ := exists_defines htext howner hread
    rw [(found?_eq_some_iff htext).mpr ⟨n, rfl, howner, hmade⟩]
    rfl

end

/-! ### What all entries come to -/

/-- The walk puts what the entries come to into a dictionary, one after the other. -/
theorem addClasses_eq_ok {entries : List Json} {classes : Dictionary Json (List Enum.Definition)}
    (hok : (addClasses [] entries).2 = .ok classes) :
    (∀ entry ∈ entries, ∃ item, readClass entry = .ok item) ∧
      classes = Dictionary.ofPairs (entries.filterMap found?) := by
  rw [addClasses_eq] at hok
  cases hread : entries.mapM readClass with
  | error e =>
    rw [hread] at hok
    cases hok
  | ok items =>
    rw [hread] at hok
    cases hok
    have hall := exists_ok_of_mapM hread
    have hmap : entries.mapM readClass = .ok (entries.map found?) := by
      apply mapM_eq_ok
      intro entry hentry
      obtain ⟨item, hitem⟩ := hall entry hentry
      rw [hitem, found?, hitem]
      rfl
    rw [hread] at hmap
    refine ⟨hall, ?_⟩
    rw [Except.ok.inj hmap, enterAll, Dictionary.ofPairs, List.foldl_map, List.foldl_filterMap]
    congr 1
    funext classes entry
    cases found? entry <;> rfl

section

variable {entries : List Json} (htexts : ∀ entry ∈ entries, NamedByText entry)
  {classes : Dictionary Json (List Enum.Definition)}
  (hok : (addClasses [] entries).2 = .ok classes)

include htexts hok

/-- The classes with enums stand where their first entries with enums do. -/
theorem keys_classes :
    Dictionary.keys classes = (entries.filterMap ownerName?).eraseDups.map .string := by
  obtain ⟨hread, rfl⟩ := addClasses_eq_ok hok
  apply Json.keys_ofPairs_of_names
  rw [List.map_filterMap, List.map_filterMap]
  apply List.filterMap_congr
  intro entry hentry
  exact map_fst_found? (htexts entry hentry) (hread entry hentry)

/-- A class holds the enums of its last entry with enums. -/
theorem get?_classes_iff {n : String} {made : List Enum.Definition} :
    Dictionary.get? (.string n) classes = some made ↔
      ∃ entry, LastItem (fun other => ownerName? other = some n) entries entry ∧
        Defines entry made := by
  obtain ⟨hread, rfl⟩ := addClasses_eq_ok hok
  have hnames : ∀ pair ∈ entries.filterMap found?, ∃ s, pair.1 = .string s := by
    rintro ⟨name, found⟩ hpair
    obtain ⟨entry, hentry, hfound⟩ := List.mem_filterMap.mp hpair
    obtain ⟨s, hs, -⟩ := (found?_eq_some_iff (htexts entry hentry)).mp hfound
    exact ⟨s, hs⟩
  have howner : ∀ entry ∈ entries,
      (∃ item, found? entry = some item ∧ item.1 = .string n) ↔ ownerName? entry = some n := by
    intro entry hentry
    have hfst := map_fst_found? (htexts entry hentry) (hread entry hentry)
    rw [← Option.map_eq_some_iff, hfst, Option.map_eq_some_iff]
    simp
  rw [Json.get?_ofPairs_eq_some_iff hnames, lastItem_filterMap_iff]
  refine exists_congr fun entry => ?_
  rw [lastItem_congr howner, and_comm]
  refine and_congr_right ?_
  rintro ⟨front, back, hentries, hsome, -⟩
  have hentry : entry ∈ entries := by simp [hentries]
  rw [found?_eq_some_iff (htexts entry hentry)]
  simp [hsome]

end

theorem log_of_addClasses {entries : List Json}
    {classes found : Dictionary Json (List Enum.Definition)}
    (hok : (addClasses classes entries).2 = .ok found) :
    (addClasses classes entries).1 = (entries.filter isNameless).map namelessEntry := by
  induction entries generalizing classes with
  | nil => rfl
  | cons entry rest ih =>
    rw [addClasses] at hok ⊢
    cases hname : className? entry with
    | none =>
      rw [hname] at hok
      rw [List.filter_cons_of_pos (className?_eq_none_iff.mp hname), List.map_cons]
      exact congrArg _ (ih hok)
    | some name =>
      have hnamed : ¬ isNameless entry = true := by
        rw [← className?_eq_none_iff, hname]
        simp
      rw [List.filter_cons_of_neg hnamed]
      rw [hname] at hok
      dsimp only at hok ⊢
      split at hok
      · cases hok
      · exact ih hok
      · split at hok
        · rename_i hkey
          rw [if_pos hkey]
          exact ih hok
        · cases hok

/-! ### The whole catalog -/

theorem catalog_eq_ok {api : Api} {enums : EnumCatalog} (hok : api.catalog.2 = .ok enums) :
    ∃ globals entries, api.items globalEnumsKey = .ok globals ∧
      api.items classesKey = .ok entries ∧ definitions globals = .ok enums.globals ∧
      (addClasses [] entries).2 = .ok enums.classes ∧
      api.catalog.1 = (addClasses [] entries).1 := by
  unfold catalog at hok ⊢
  cases hglobals : api.items globalEnumsKey >>= definitions with
  | error e =>
    rw [hglobals] at hok
    cases hok
  | ok made =>
    obtain ⟨globals, hitems, hmade⟩ := bind_eq_ok_iff.mp hglobals
    rw [hglobals] at hok
    dsimp only at hok ⊢
    cases hclasses : api.items classesKey with
    | error e =>
      rw [hclasses] at hok
      cases hok
    | ok entries =>
      rw [hclasses] at hok
      dsimp only at hok ⊢
      cases hadded : (addClasses [] entries).2 with
      | error e =>
        rw [hadded] at hok
        cases hok
      | ok classes =>
        rw [hadded] at hok
        cases hok
        exact ⟨globals, entries, hitems, rfl, hmade, hadded, rfl⟩

/-! ### The set of classes -/

theorem nodup_eraseDups (names : List String) : names.eraseDups.Nodup := by
  induction names using List.reverseRecOn with
  | nil => exact List.nodup_nil
  | append_singleton front name ih =>
    rw [List.eraseDups_append]
    by_cases hmem : name ∈ front
    · simpa [List.removeAll, hmem] using ih
    · have hnew : ([name].removeAll front).eraseDups = [name] := by
        simp [List.removeAll, hmem, List.eraseDups_cons]
      rw [hnew, List.nodup_append]
      refine ⟨ih, List.nodup_singleton _, ?_⟩
      intro other hother
      rw [List.mem_eraseDups] at hother
      rintro _ hlast rfl
      exact hmem (List.mem_singleton.mp hlast ▸ hother)

/-- A set of classes is that of the entries with names: it answers for each of these names and
    for no other, and counts each name once. -/
structure NamesClasses (entries : List Json) (classes : ClassSet) : Prop where
  contains : ∀ n : String, classes.contains n = true ↔ ∃ entry ∈ entries, entryName? entry = some n
  size : classes.size = (entries.filterMap entryName?).toFinset.card

theorem namesClasses_eraseDups (entries : List Json) :
    NamesClasses entries ⟨(entries.filterMap entryName?).eraseDups.map .string⟩ where
  contains := by
    intro n
    simp [ClassSet.contains, Json.beq_string_iff]
  size := by
    rw [ClassSet.size, List.length_map, ← List.toFinset_card_of_nodup (nodup_eraseDups _)]
    congr 1
    ext n
    simp

theorem ofApi_eq_ok {api : Api} {entries : List Json}
    (hitems : api.items classesKey = .ok entries) (htexts : ∀ entry ∈ entries, NamedByText entry) :
    ∃ classes, ClassSet.ofApi api = .ok classes ∧ NamesClasses entries classes := by
  refine ⟨_, ?_, namesClasses_eraseDups entries⟩
  have hnames : entries.filterMap className? = (entries.filterMap entryName?).map .string := by
    rw [List.map_filterMap]
    apply List.filterMap_congr
    intro entry hentry
    exact className?_eq_map (htexts entry hentry)
  have hkeys : ((entries.filterMap entryName?).map Json.string).find?
      (fun name => !name.isKey) = none := by
    apply List.find?_eq_none.mpr
    intro name hname
    obtain ⟨text, -, rfl⟩ := List.mem_map.mp hname
    simp [Json.isKey]
  refine bind_eq_ok_iff.mpr ⟨entries.filterMap className?, ?_, ?_⟩
  · exact bind_eq_ok_iff.mpr ⟨entries, hitems, rfl⟩
  · rw [hnames, ClassSet.ofNames, hkeys, Json.eraseDups_map_string]

/-! ### The theorem -/

/-- A catalog and the warnings given on the way are those of two lists of entries. -/
structure Collects (globals entries : List Json) (enums : EnumCatalog)
    (log : List Log.Record) : Prop where
  globals : List.Forall₂ (fun entry definition => Enum.Definition.ofJson entry = .ok definition)
    globals enums.globals
  /-- The classes stand in the order of their first entries with enums. -/
  keys : Dictionary.keys enums.classes = (entries.filterMap ownerName?).eraseDups.map .string
  /-- Each class holds the definitions of its last entry with enums. -/
  classes : ∀ (n : String) (made : List Enum.Definition),
    Dictionary.get? (.string n) enums.classes = some made ↔
      ∃ entry, LastItem (fun other => ownerName? other = some n) entries entry ∧
        Defines entry made
  log : log = (entries.filter isNameless).map namelessEntry

theorem entryName?_of_ownerName? {entry : Json} {n : String} (howner : ownerName? entry = some n) :
    entryName? entry = some n := by
  rw [ownerName?_eq] at howner
  obtain ⟨enums, -, hname⟩ := Option.bind_eq_some_iff.mp howner
  exact hname

/-- What is collected from a description whose classes are named by texts: the catalog is that
    of its two lists of entries, the set of classes is that of the second list in any order, and
    the classes of the catalog are in the set. -/
theorem collects_of_catalog (api : Api) (enums : EnumCatalog) (hok : api.catalog.2 = .ok enums)
    (htexts : ∀ entries, api.items classesKey = .ok entries → ∀ entry ∈ entries,
      NamedByText entry) :
    ∃ globals entries classes, api.items globalEnumsKey = .ok globals ∧
      api.items classesKey = .ok entries ∧ ClassSet.ofApi api = .ok classes ∧
      Collects globals entries enums api.catalog.1 ∧ NamesClasses entries classes ∧
      (∀ n, .string n ∈ Dictionary.keys enums.classes → classes.contains n = true) ∧
      ∀ (other : Api) (shuffled : List Json), other.items classesKey = .ok shuffled →
        shuffled.Perm entries → ∃ same, ClassSet.ofApi other = .ok same ∧
          same.size = classes.size ∧ ∀ n, same.contains n = classes.contains n := by
  obtain ⟨globals, entries, hglobals, hitems, hmade, hadded, hlog⟩ := catalog_eq_ok hok
  have hentries := htexts entries hitems
  obtain ⟨classes, hclasses, hnames⟩ := ofApi_eq_ok hitems hentries
  refine ⟨globals, entries, classes, hglobals, hitems, hclasses, ?_, hnames, ?_, ?_⟩
  · exact {
      globals := definitions_eq_ok_iff.mp hmade
      keys := keys_classes hentries hadded
      classes := fun n made => get?_classes_iff hentries hadded
      log := hlog.trans (log_of_addClasses hadded) }
  · intro n hn
    rw [keys_classes hentries hadded, List.mem_map_of_injective (fun _ _ => Json.string.inj),
      List.mem_eraseDups, List.mem_filterMap] at hn
    obtain ⟨entry, hentry, howner⟩ := hn
    exact (hnames.contains n).mpr ⟨entry, hentry, entryName?_of_ownerName? howner⟩
  · intro other shuffled hshuffled hperm
    have htexts' : ∀ entry ∈ shuffled, NamedByText entry := by
      intro entry hentry
      exact hentries entry (hperm.mem_iff.mp hentry)
    obtain ⟨same, hsame, hnames'⟩ := ofApi_eq_ok hshuffled htexts'
    refine ⟨same, hsame, ?_, ?_⟩
    · rw [hnames'.size, hnames.size, List.toFinset_eq_of_perm _ _ (hperm.filterMap entryName?)]
    · intro n
      rw [Bool.eq_iff_iff, hnames'.contains, hnames.contains]
      simp only [hperm.mem_iff]

def describedAs (name : String) (enums : List String) : Json :=
  .object [("name", .string name),
    ("enums", .array (enums.map fun enum => .object [("name", .string enum)]))]

/-- A class that is described again behind another one, with other enums and then with none,
    and an entry that is no object. -/
def describedAgain : Api :=
  ⟨[("classes", .array [describedAs "Node" ["Old"], .null, describedAs "Area" ["Shape"],
    describedAs "Node" ["Mode"], describedAs "Node" []])]⟩

/-- The class keeps its first place and has the enums of its last entry with any. -/
theorem collects_describedAgain :
    ∃ enums classes, describedAgain.catalog.2 = .ok enums ∧
      Dictionary.keys enums.classes = [.string "Node", .string "Area"] ∧
      Dictionary.get? (.string "Node") enums.classes =
        some [⟨.string "Mode", [], false, none, "i32", "i64"⟩] ∧
      describedAgain.catalog.1 = [namelessEntry .null] ∧
      ClassSet.ofApi describedAgain = .ok classes ∧ classes.size = 2 := by
  have htexts : ∀ entries, describedAgain.items classesKey = .ok entries →
      ∀ entry ∈ entries, NamedByText entry := by
    rintro _ ⟨⟩ entry hentry hname
    simp only [List.mem_cons, List.not_mem_nil, or_false] at hentry
    rcases hentry with rfl | rfl | rfl | rfl | rfl
    case inr.inl => cases hname
    all_goals exact ⟨_, rfl⟩
  obtain ⟨globals, entries, classes, -, hitems, hclasses, hcollects, hnames, -, -⟩ :=
    collects_of_catalog describedAgain _ rfl htexts
  cases hitems
  refine ⟨_, classes, rfl, hcollects.keys.trans rfl, ?_, hcollects.log.trans rfl, hclasses,
    hnames.size.trans rfl⟩
  -- the entry behind the last one with enums lists none, so it does not count
  have hlast : ∀ entry ∈ [describedAs "Node" []], ownerName? entry ≠ some "Node" := by
    rw [List.forall_mem_singleton]
    nofun
  exact (hcollects.classes _ _).mpr ⟨describedAs "Node" ["Mode"],
    ⟨[describedAs "Node" ["Old"], .null, describedAs "Area" ["Shape"]], _, rfl, rfl, hlast⟩,
    _, rfl, .cons rfl .nil⟩

end EngineBindings.Api
