/-
  EngineBindings/Proofs/Api/Refusal.lean
  ======================================
  **Which descriptions of an API end the run.**

  A run reports what is wrong with the content of the description, but a few values are of a
  kind that no check provides for: a list or an object as the name of a class
  (`ofApi_breaks_iff`), the same as the name of a constant, and a number or a truth value as
  the enums of a class.  Collecting the enums stops at the first fault, so it ends the run when
  the first fault is one of these and everything before it is accepted (`catalog_breaks_iff`).
  Nothing else in the two parts of the description gets out of a run (`description_breaks_iff`).
-/
import EngineBindings.CommandLine.Run
import EngineBindings.Proofs.Enum.Refusal

namespace EngineBindings

namespace Api

def Error.Unreported (e : Error) : Prop := e.isReported = false

theorem items_faults_reported (api : Api) (key : String) :
    ¬ FailsWith Error.Unreported (api.items key) := by
  rintro ⟨e, he, hkind⟩
  unfold items at he
  split at he
  · cases he
  · cases he
  · cases he
  · cases he
    cases hkind

/-! ### The names of the classes -/

theorem ofNames_breaks_iff {names : List Json} :
    FailsWith Error.Unreported (ClassSet.ofNames names) ↔
      ∃ name ∈ names, name.isKey = false := by
  unfold ClassSet.ofNames
  cases hfind : names.find? fun name => !name.isKey with
  | some bad =>
    have hbad : bad.isKey = false := by simpa using List.find?_some hfind
    exact iff_of_true (failsWith_error_iff.mpr rfl) ⟨bad, List.mem_of_find?_eq_some hfind, hbad⟩
  | none =>
    refine iff_of_false not_failsWith_ok ?_
    rintro ⟨name, hname, hkey⟩
    simpa [hkey] using List.find?_eq_none.mp hfind name hname

def NamedByNoKey (entry : Json) : Prop :=
  ∃ name, className? entry = some name ∧ name.isKey = false

def ClassNamesBreak (api : Api) : Prop :=
  ∃ entries, api.items classesKey = .ok entries ∧ ∃ entry ∈ entries, NamedByNoKey entry

theorem ofApi_breaks_iff (api : Api) :
    FailsWith Error.Unreported (ClassSet.ofApi api) ↔ ClassNamesBreak api := by
  unfold ClassSet.ofApi classNames
  rw [failsWith_bind_iff, failsWith_bind_iff, or_iff_right (not_or.mpr
    ⟨items_faults_reported api classesKey, fun ⟨_, _, hpure⟩ => not_failsWith_ok hpure⟩)]
  constructor
  · rintro ⟨names, hnames, hbreaks⟩
    cases hitems : api.items classesKey with
    | error e =>
      rw [hitems] at hnames
      cases hnames
    | ok entries =>
      rw [hitems] at hnames
      cases hnames
      obtain ⟨name, hname, hkey⟩ := ofNames_breaks_iff.mp hbreaks
      obtain ⟨entry, hentry, hclass⟩ := List.mem_filterMap.mp hname
      exact ⟨entries, hitems, entry, hentry, name, hclass, hkey⟩
  · rintro ⟨entries, hitems, entry, hentry, name, hclass, hkey⟩
    refine ⟨entries.filterMap className?, by rw [hitems]; rfl, ofNames_breaks_iff.mpr ?_⟩
    exact ⟨name, List.mem_filterMap.mpr ⟨entry, hentry, hclass⟩, hkey⟩

/-! ### The enums -/

def Accepted (entry : Json) : Prop := ∃ definition, Enum.Definition.ofJson entry = .ok definition

/-- The first entry of a list that is not accepted ends the run. -/
def EnumsBreak (entries : List Json) : Prop :=
  FirstFault Accepted Enum.Definition.Breaks entries

theorem definitions_breaks_iff {entries : List Json} :
    FailsWith Error.Unreported (definitions entries) ↔ EnumsBreak entries := by
  unfold definitions
  rw [failsWith_mapError_iff]
  refine failsWith_mapM_iff.trans ?_
  unfold EnumsBreak
  have hfaulty : (fun entry => FailsWith (fun e => Error.Unreported (.enum e))
      (Enum.Definition.ofJson entry)) = Enum.Definition.Breaks :=
    funext fun entry => propext (Enum.Definition.ofJson_breaks_iff entry)
  rw [hfaulty]
  rfl

def classEnums? (entry : Json) : Option Json :=
  (entry.field? "enums").filter fun enums => !enums.isEmpty

/-- The enums of a class end the run: they cannot be walked over, or the first of them that is
    not accepted ends it. -/
def ClassEnumsBreak (entry : Json) : Prop :=
  ∃ enums, classEnums? entry = some enums ∧
    (enums.elements? = none ∨ ∃ entries, enums.elements? = some entries ∧ EnumsBreak entries)

theorem classDefinitions?_breaks_iff {entry : Json} :
    FailsWith Error.Unreported (classDefinitions? entry) ↔ ClassEnumsBreak entry := by
  unfold classDefinitions? ClassEnumsBreak classEnums?
  split
  · rename_i hclass
    rw [hclass]
    refine iff_of_false not_failsWith_ok ?_
    rintro ⟨enums, henums, -⟩
    cases henums
  · rename_i enums hclass
    rw [hclass]
    split
    · rename_i entries hwalk
      rw [failsWith_bind_iff, definitions_breaks_iff]
      constructor
      · rintro (hbreaks | ⟨_, _, hpure⟩)
        · exact ⟨enums, rfl, Or.inr ⟨entries, hwalk, hbreaks⟩⟩
        · exact absurd hpure not_failsWith_ok
      · rintro ⟨enums', henums, hrest⟩
        cases henums
        rcases hrest with hnone | ⟨entries', hsome, hbreaks⟩
        · rw [hwalk] at hnone
          cases hnone
        · rw [hwalk] at hsome
          cases hsome
          exact Or.inl hbreaks
    · rename_i hwalk
      exact iff_of_true (failsWith_error_iff.mpr rfl) ⟨enums, rfl, Or.inl hwalk⟩

/-! ### The classes -/

/-- What the entry of a class comes to by itself: a name and definitions, or nothing. -/
def readClass (entry : Json) : Except Error (Option (Json × List Enum.Definition)) :=
  match className? entry with
  | none => .ok none
  | some name =>
    match classDefinitions? entry with
    | .error e => .error e
    | .ok none => .ok none
    | .ok (some definitions) =>
      if name.isKey then .ok (some (name, definitions)) else .error (.nameNotKey name)

def enterAll (classes : Dictionary Json (List Enum.Definition))
    (found : List (Option (Json × List Enum.Definition))) :
    Dictionary Json (List Enum.Definition) :=
  found.foldl (fun classes item =>
    item.elim classes fun (name, definitions) => Dictionary.insert name definitions classes) classes

/-- The classes are read one by one, whatever classes there are already. -/
theorem addClasses_eq (classes : Dictionary Json (List Enum.Definition)) (entries : List Json) :
    (addClasses classes entries).2 = (entries.mapM readClass).map (enterAll classes) := by
  induction entries generalizing classes with
  | nil => rfl
  | cons entry rest ih =>
    rw [addClasses, List.mapM_cons, readClass]
    -- an entry that is read leaves the rest of the walk, with or without one more class
    have hread : ∀ item, (addClasses (enterAll classes [item]) rest).2 =
        ((do let found ← rest.mapM readClass; pure (item :: found)) :
          Except Error (List (Option (Json × List Enum.Definition)))).map (enterAll classes) := by
      intro item
      rw [ih]
      cases rest.mapM readClass <;> rfl
    cases hname : className? entry with
    | none => exact hread none
    | some name =>
      dsimp only
      cases hdefinitions : classDefinitions? entry with
      | error e => rfl
      | ok found =>
        cases found with
        | none => exact hread none
        | some definitions =>
          dsimp only
          split
          · exact hread (some (name, definitions))
          · rfl

/-- The entry of a class that ends the run: by its enums, or by its name when it has enums that
    are all accepted. -/
def ClassBreaks (entry : Json) : Prop :=
  ∃ name, className? entry = some name ∧
    (ClassEnumsBreak entry ∨
      ∃ definitions, classDefinitions? entry = .ok (some definitions) ∧ name.isKey = false)

theorem readClass_breaks_iff {entry : Json} :
    FailsWith Error.Unreported (readClass entry) ↔ ClassBreaks entry := by
  unfold readClass ClassBreaks
  rw [← classDefinitions?_breaks_iff]
  cases hname : className? entry with
  | none => exact iff_of_false not_failsWith_ok (by rintro ⟨name, hsome, -⟩; cases hsome)
  | some name =>
    dsimp only
    cases hdefinitions : classDefinitions? entry with
    | error e => simp [failsWith_error_iff]
    | ok found =>
      cases found with
      | none => simp [not_failsWith_ok]
      | some definitions =>
        cases hkey : name.isKey with
        | true => simp [not_failsWith_ok, hkey]
        | false => simp [failsWith_error_iff, not_failsWith_ok, hkey, Error.Unreported,
            Error.isReported]

def ClassesBreak (entries : List Json) : Prop :=
  FirstFault (fun entry => ∃ found, readClass entry = .ok found) ClassBreaks entries

theorem addClasses_breaks_iff {classes : Dictionary Json (List Enum.Definition)}
    {entries : List Json} :
    FailsWith Error.Unreported (addClasses classes entries).2 ↔ ClassesBreak entries := by
  rw [addClasses_eq, failsWith_map_iff, failsWith_mapM_iff]
  unfold ClassesBreak
  simp only [readClass_breaks_iff]

/-! ### The whole description -/

def GlobalsAccepted (api : Api) : Prop :=
  ∃ globals, (api.items globalEnumsKey >>= definitions) = .ok globals

/-- The two parts of a description end the run while the enums are collected: the enums without
    an owner do, or they are accepted and the classes do. -/
def CatalogBreaks (api : Api) : Prop :=
  (∃ entries, api.items globalEnumsKey = .ok entries ∧ EnumsBreak entries) ∨
    (GlobalsAccepted api ∧ ∃ entries, api.items classesKey = .ok entries ∧ ClassesBreak entries)

theorem catalog_breaks_iff (api : Api) :
    FailsWith Error.Unreported api.catalog.2 ↔ CatalogBreaks api := by
  have hglobals : FailsWith Error.Unreported (api.items globalEnumsKey >>= definitions) ↔
      ∃ entries, api.items globalEnumsKey = .ok entries ∧ EnumsBreak entries := by
    rw [failsWith_bind_iff, or_iff_right (items_faults_reported api globalEnumsKey)]
    simp only [definitions_breaks_iff]
  unfold catalog CatalogBreaks GlobalsAccepted
  rw [← hglobals]
  cases hfirst : api.items globalEnumsKey >>= definitions with
  | error e => simp [failsWith_error_iff]
  | ok globals =>
    rw [or_iff_right not_failsWith_ok, and_iff_right ⟨globals, rfl⟩]
    dsimp only
    cases hitems : api.items classesKey with
    | error e =>
      refine iff_of_false ?_ (by rintro ⟨entries, hok, -⟩; cases hok)
      rintro ⟨e', he', hkind⟩
      cases he'
      exact items_faults_reported api classesKey ⟨e, hitems, hkind⟩
    | ok entries =>
      dsimp only
      rw [failsWith_map_iff, addClasses_breaks_iff]
      simp

end Api

namespace CommandLine

theorem resolvedLines_ne_api {resolver : Resolver} {values : List Value} {e : Api.Error} :
    (resolvedLines resolver values).2 ≠ .error (.api e) := by
  induction values with
  | nil => exact nofun
  | cons value rest ih =>
    cases value with
    | nothing => exact nofun
    | text name =>
      rw [resolvedLines]
      dsimp only
      split
      · exact nofun
      · exact ih

/-- A run that has read the description of an API ends with a cause in it when its classes
    end it, or when these are known and its enums end it. -/
theorem collectStage_breaks_iff (arguments : Arguments) (session : Session) (outputDir : Path)
    (templates : Template.Library) (file : String) (api : Api) :
    (∃ e, (collectStage arguments session outputDir templates file api).exit =
        .error (.api e)) ↔
      FailsWith Api.Error.Unreported (ClassSet.ofApi api) ∨
        (∃ classes, ClassSet.ofApi api = .ok classes) ∧
          FailsWith Api.Error.Unreported api.catalog.2 := by
  unfold collectStage
  dsimp only
  cases hclasses : ClassSet.ofApi api with
  | error e =>
    simp only [failsWith_error_iff, Api.Error.Unreported]
    cases hreported : e.isReported <;> simp [giveUp]
  | ok classes =>
    rw [or_iff_right not_failsWith_ok, and_iff_right ⟨classes, rfl⟩]
    dsimp only
    cases hcatalog : api.catalog.2 with
    | error e =>
      simp only [failsWith_error_iff, Api.Error.Unreported]
      cases hreported : e.isReported <;> simp [giveUp]
    | ok enums =>
      refine iff_of_false ?_ not_failsWith_ok
      rintro ⟨e, hexit⟩
      dsimp only at hexit
      split at hexit
      · rename_i output failure hlines
        cases hexit
        exact resolvedLines_ne_api (congrArg Prod.snd hlines)
      · unfold writeStage at hexit
        dsimp only at hexit
        split at hexit
        · cases hexit
        · split at hexit <;> cases hexit

/-- Which descriptions of an API end a run, and where: the classes are read for their names
    first and for their enums then, and a cause in the description comes out of the run when it
    comes out of one of the two. -/
theorem description_breaks_iff (api : Api) :
    (FailsWith Api.Error.Unreported (ClassSet.ofApi api) ↔ api.ClassNamesBreak) ∧
      (FailsWith Api.Error.Unreported api.catalog.2 ↔ api.CatalogBreaks) ∧
      ∀ (arguments : Arguments) (session : Session) (outputDir : Path)
        (templates : Template.Library) (file : String),
        (∃ e, (collectStage arguments session outputDir templates file api).exit =
            .error (.api e)) ↔
          api.ClassNamesBreak ∨ (∃ classes, ClassSet.ofApi api = .ok classes) ∧
            api.CatalogBreaks := by
  refine ⟨Api.ofApi_breaks_iff api, Api.catalog_breaks_iff api, ?_⟩
  intro arguments session outputDir templates file
  rw [collectStage_breaks_iff, Api.ofApi_breaks_iff, Api.catalog_breaks_iff]

/-- The enums of a class may not be a number, and the name of a class no list. -/
theorem description_breaks_example :
    FailsWith Api.Error.Unreported (Api.catalog ⟨[("classes",
      .array [.object [("name", .string "A"), ("enums", .int 5)]])]⟩).2 ∧
    FailsWith Api.Error.Unreported (ClassSet.ofApi ⟨[("classes",
      .array [.object [("name", .array [.string "A"])]])]⟩) :=
  ⟨⟨_, rfl, rfl⟩, ⟨_, rfl, rfl⟩⟩

end CommandLine

end EngineBindings
