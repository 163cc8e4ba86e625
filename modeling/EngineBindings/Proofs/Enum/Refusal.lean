/-
  EngineBindings/Proofs/Enum/Refusal.lean
  =======================================
  **Which enums end the run.**

  Every fault that is found while an entry is read as a declaration is reported
  (`Declaration.faults_reported`).  What comes after that makes definitions of declarations,
  and there one fault is left: the name of a constant has to be a value that can be looked up,
  which no step before has asked for.  So an entry ends the run exactly when it is accepted as
  a declaration and one of its constants is named by a list or an object
  (`Definition.ofJson_breaks_iff`).
-/
import EngineBindings.Enum.Definition
import EngineBindings.Proofs.Attempt

namespace EngineBindings.Enum

def Error.Unreported (e : Error) : Prop := e.isReported = false

/-! ### Reading declarations -/

theorem checkOrdinal_faults_reported (owner : Owner) (value : Json) :
    ¬ FailsWith Error.Unreported (checkOrdinal owner value) := by
  rintro ⟨e, he, hkind⟩
  cases value with
  | int n =>
    rw [checkOrdinal] at he
    split at he
    · cases he
    · cases he
      cases hkind
  | _ =>
    cases he
    cases hkind

theorem enumerator_faults_reported (name value : Json) :
    ¬ FailsWith Error.Unreported (Enumerator.make name value) := by
  unfold Enumerator.make
  split
  · rw [failsWith_bind_iff]
    rintro (hempty | ⟨_, hthrow, _⟩)
    · cases failsWith_error_iff.mp hempty
    · cases hthrow
  · change ¬ FailsWith Error.Unreported (checkOrdinal (.enumerator name) value >>= _)
    rw [failsWith_bind_iff]
    rintro (hcheck | ⟨_, _, hpure⟩)
    · exact checkOrdinal_faults_reported _ _ hcheck
    · exact not_failsWith_ok hpure

namespace Declaration

theorem requireField_faults_reported (key : String) (entry value : Json) :
    ¬ FailsWith Error.Unreported ((requireField key value).mapError (.malformedEntry entry)) := by
  rw [failsWith_mapError_iff]
  rintro ⟨_, _, hkind⟩
  cases hkind

theorem readEnumerator_faults_reported (entry item : Json) :
    ¬ FailsWith Error.Unreported (readEnumerator entry item) := by
  unfold readEnumerator
  rw [failsWith_bind_iff]
  rintro (hname | ⟨name, -, hrest⟩)
  · exact requireField_faults_reported _ _ _ hname
  · rw [failsWith_bind_iff] at hrest
    rcases hrest with hvalue | ⟨value, -, hmake⟩
    · exact requireField_faults_reported _ _ _ hvalue
    · exact enumerator_faults_reported name value hmake

theorem make_faults_reported (name : Json) (values : List Enumerator) (isBitfield : Bool) :
    ¬ FailsWith Error.Unreported (make name values isBitfield) := by
  rintro ⟨e, he, hkind⟩
  unfold make at he
  split at he
  · cases he
    cases hkind
  · split at he
    · cases he
      cases hkind
    · cases he

/-- Whatever is wrong with an entry that is read as a declaration is reported. -/
theorem faults_reported (entry : Json) :
    ¬ FailsWith Error.Unreported (Declaration.ofJson entry) := by
  unfold Declaration.ofJson
  rw [failsWith_bind_iff]
  rintro (hname | ⟨name, -, hrest⟩)
  · exact requireField_faults_reported _ _ _ hname
  · dsimp only at hrest
    split at hrest
    · rename_i items _
      change FailsWith Error.Unreported (items.mapM (readEnumerator entry) >>= _) at hrest
      rw [failsWith_bind_iff] at hrest
      rcases hrest with hvalues | ⟨values, -, hmake⟩
      · obtain ⟨_, item, _, _, _, hitem⟩ := failsWith_mapM_iff.mp hvalues
        exact readEnumerator_faults_reported entry item hitem
      · exact make_faults_reported _ _ _ hmake
    · cases failsWith_error_iff.mp hrest

end Declaration

/-! ### Making definitions -/

def Declaration.constant (declaration : Declaration) (v : Enumerator) : Ordinal :=
  ⟨declaration.name, v.value, declaration.isBitfield, v.fits⟩

namespace Definition

/-- The constants of a declaration: each number fits, so none is refused. -/
theorem mapM_ordinals_eq_ok (declaration : Declaration) :
    (declaration.values.mapM fun v => do
        let ordinal ← Ordinal.make declaration.name (.int v.value) declaration.isBitfield
        pure (v.name, ordinal)) =
      (.ok (declaration.values.map fun v => (v.name, declaration.constant v)) :
        Except Error (List (Json × Ordinal))) := by
  induction declaration.values with
  | nil => rfl
  | cons v rest ih =>
    rw [List.mapM_cons, ih]
    simp only [Ordinal.make, checkOrdinal, dif_pos v.fits, bind, Except.bind, pure, Except.pure,
      List.map_cons, Declaration.constant]

theorem make_breaks_iff {name : Json} {enumerators : List (Json × Ordinal)} {isBitfield : Bool}
    {unset : Option Ordinal} :
    FailsWith Error.Unreported (make name enumerators isBitfield unset) ↔
      ∃ enumerator ∈ enumerators, enumerator.1.isKey = false := by
  unfold make
  split
  · rename_i bad ordinal hfind
    have hbad : bad.isKey = false := by simpa using List.find?_some hfind
    exact iff_of_true (failsWith_error_iff.mpr rfl) ⟨_, List.mem_of_find?_eq_some hfind, hbad⟩
  · rename_i hfind
    have hkeys : ¬ ∃ enumerator ∈ enumerators, enumerator.1.isKey = false := by
      rintro ⟨enumerator, hmem, hkey⟩
      simpa [hkey] using List.find?_eq_none.mp hfind enumerator hmem
    refine iff_of_false ?_ hkeys
    split
    · intro hreserved
      cases failsWith_error_iff.mp hreserved
    · exact not_failsWith_ok

/-- An entry that is accepted as a declaration and has a constant named by a list or an
    object. -/
def Breaks (entry : Json) : Prop :=
  ∃ declaration, Declaration.ofJson entry = .ok declaration ∧
    ∃ v ∈ declaration.values, v.name.isKey = false

theorem ofJson_breaks_iff (entry : Json) :
    FailsWith Error.Unreported (Definition.ofJson entry) ↔ Breaks entry := by
  unfold Definition.ofJson
  rw [failsWith_bind_iff, or_iff_right (Declaration.faults_reported entry)]
  refine exists_congr fun declaration => and_congr_right fun _ => ?_
  rw [ofDeclaration, mapM_ordinals_eq_ok]
  change FailsWith Error.Unreported (make _ _ _ _) ↔ _
  rw [make_breaks_iff]
  constructor
  · rintro ⟨enumerator, hmem, hkey⟩
    obtain ⟨v, hv, rfl⟩ := List.mem_map.mp hmem
    exact ⟨v, hv, hkey⟩
  · rintro ⟨v, hv, hkey⟩
    exact ⟨_, List.mem_map_of_mem hv, hkey⟩

end Definition

end EngineBindings.Enum
