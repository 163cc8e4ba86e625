/-
  EngineBindings/Proofs/Attempt.lean
  ==================================
  **How an attempt fails.**

  Whether an attempt fails with a cause of some kind is read off its parts: of two steps either
  the first fails so, or it succeeds and the second does (`failsWith_bind_iff`); an attempt for
  each item of a list fails with the first item that fails (`failsWith_mapM_iff`).  It succeeds
  when both steps do (`bind_eq_ok_iff`), or all items do, one by one (`mapM_eq_ok_iff`).
-/
import Mathlib.Data.List.Forall2

namespace EngineBindings

variable {α β ε ε' : Type}

/-! ### Kinds of failures -/

def FailsWith (kind : ε → Prop) (attempt : Except ε α) : Prop :=
  ∃ e, attempt = .error e ∧ kind e

theorem failsWith_error_iff {kind : ε → Prop} {e : ε} :
    FailsWith kind (.error e : Except ε α) ↔ kind e := by
  constructor
  · rintro ⟨e', heq, hkind⟩
    cases heq
    exact hkind
  · exact fun hkind => ⟨e, rfl, hkind⟩

theorem not_failsWith_ok {kind : ε → Prop} {a : α} : ¬ FailsWith kind (.ok a : Except ε α) := by
  rintro ⟨e, heq, -⟩
  cases heq

/-- Of two steps the first fails, or the second does after the first has succeeded. -/
theorem failsWith_bind_iff {kind : ε → Prop} {attempt : Except ε α} {next : α → Except ε β} :
    FailsWith kind (attempt >>= next) ↔
      FailsWith kind attempt ∨ ∃ a, attempt = .ok a ∧ FailsWith kind (next a) := by
  cases attempt with
  | error e =>
    change FailsWith kind (.error e : Except ε β) ↔ _
    rw [failsWith_error_iff, failsWith_error_iff]
    simp
  | ok a =>
    change FailsWith kind (next a) ↔ _
    constructor
    · exact fun hnext => Or.inr ⟨a, rfl, hnext⟩
    · rintro (hfirst | ⟨a', heq, hnext⟩)
      · exact absurd hfirst not_failsWith_ok
      · cases heq
        exact hnext

theorem failsWith_map_iff {kind : ε → Prop} {attempt : Except ε α} {f : α → β} :
    FailsWith kind (attempt.map f) ↔ FailsWith kind attempt := by
  cases attempt with
  | error e => exact failsWith_error_iff.trans failsWith_error_iff.symm
  | ok a => exact iff_of_false not_failsWith_ok not_failsWith_ok

theorem failsWith_mapError_iff {kind : ε' → Prop} {attempt : Except ε α} {f : ε → ε'} :
    FailsWith kind (attempt.mapError f) ↔ FailsWith (fun e => kind (f e)) attempt := by
  cases attempt with
  | error e =>
    change FailsWith kind (.error (f e) : Except ε' α) ↔ _
    rw [failsWith_error_iff, failsWith_error_iff]
  | ok a => exact iff_of_false not_failsWith_ok not_failsWith_ok

/-! ### The first fault of a list -/

/-- The first item of a list that is not settled is faulty. -/
def FirstFault (settled faulty : α → Prop) (items : List α) : Prop :=
  ∃ front item back, items = front ++ item :: back ∧ (∀ other ∈ front, settled other) ∧
    faulty item

variable {settled faulty : α → Prop}

theorem not_firstFault_nil : ¬ FirstFault settled faulty [] := by
  rintro ⟨front, item, back, hitems, -, -⟩
  simp at hitems

theorem firstFault_cons_iff {item : α} {rest : List α} :
    FirstFault settled faulty (item :: rest) ↔
      faulty item ∨ (settled item ∧ FirstFault settled faulty rest) := by
  constructor
  · rintro ⟨front, bad, back, hitems, hfront, hbad⟩
    cases front with
    | nil =>
      cases hitems
      exact Or.inl hbad
    | cons first front =>
      cases hitems
      exact Or.inr ⟨hfront _ List.mem_cons_self, front, bad, back, rfl,
        fun other hother => hfront other (List.mem_cons_of_mem _ hother), hbad⟩
  · rintro (hbad | ⟨hsettled, front, bad, back, rfl, hfront, hbad⟩)
    · exact ⟨[], item, rest, rfl, nofun, hbad⟩
    · refine ⟨item :: front, bad, back, rfl, ?_, hbad⟩
      intro other hother
      rcases List.mem_cons.mp hother with rfl | hother
      · exact hsettled
      · exact hfront other hother

/-- An attempt for each item of a list fails with the first item that fails. -/
theorem failsWith_mapM_iff {kind : ε → Prop} {f : α → Except ε β} {items : List α} :
    FailsWith kind (items.mapM f) ↔
      FirstFault (fun item => ∃ b, f item = .ok b) (fun item => FailsWith kind (f item)) items := by
  induction items with
  | nil => exact iff_of_false not_failsWith_ok not_firstFault_nil
  | cons item rest ih =>
    rw [List.mapM_cons, failsWith_bind_iff, firstFault_cons_iff, ← ih]
    refine or_congr_right ?_
    constructor
    · rintro ⟨b, hb, hrest⟩
      rcases failsWith_bind_iff.mp hrest with hfails | ⟨bs, -, hlast⟩
      · exact ⟨⟨b, hb⟩, hfails⟩
      · exact absurd hlast not_failsWith_ok
    · rintro ⟨⟨b, hb⟩, hfails⟩
      exact ⟨b, hb, failsWith_bind_iff.mpr (Or.inl hfails)⟩

/-! ### Success -/

theorem bind_eq_ok_iff {attempt : Except ε α} {next : α → Except ε β} {b : β} :
    attempt >>= next = .ok b ↔ ∃ a, attempt = .ok a ∧ next a = .ok b := by
  cases attempt with
  | error e => exact iff_of_false nofun (by rintro ⟨a, ha, -⟩; cases ha)
  | ok a =>
    constructor
    · exact fun hnext => ⟨a, rfl, hnext⟩
    · rintro ⟨a', ha, hnext⟩
      cases ha
      exact hnext

theorem mapError_eq_ok_iff {attempt : Except ε α} {f : ε → ε'} {a : α} :
    attempt.mapError f = .ok a ↔ attempt = .ok a := by
  cases attempt with
  | error e => exact iff_of_false nofun nofun
  | ok a' => simp [Except.mapError]

/-- An attempt for each item of a list succeeds item by item. -/
theorem mapM_eq_ok_iff {f : α → Except ε β} {items : List α} {results : List β} :
    items.mapM f = .ok results ↔
      List.Forall₂ (fun item result => f item = .ok result) items results := by
  induction items generalizing results with
  | nil =>
    rw [List.mapM_nil, List.forall₂_nil_left_iff]
    constructor
    · rintro ⟨⟩
      rfl
    · rintro rfl
      rfl
  | cons item rest ih =>
    rw [List.mapM_cons, bind_eq_ok_iff, List.forall₂_cons_left_iff]
    constructor
    · rintro ⟨b, hitem, hrest⟩
      obtain ⟨bs, hbs, hpure⟩ := bind_eq_ok_iff.mp hrest
      cases hpure
      exact ⟨b, bs, hitem, ih.mp hbs, rfl⟩
    · rintro ⟨b, bs, hitem, hbs, rfl⟩
      exact ⟨b, hitem, bind_eq_ok_iff.mpr ⟨bs, ih.mpr hbs, rfl⟩⟩

theorem exists_ok_of_mapM {f : α → Except ε β} {items : List α} {results : List β}
    (hok : items.mapM f = .ok results) : ∀ item ∈ items, ∃ b, f item = .ok b := by
  rw [mapM_eq_ok_iff] at hok
  induction hok with
  | nil => nofun
  | cons hitem _ ih => exact List.forall_mem_cons.mpr ⟨⟨_, hitem⟩, ih⟩

theorem mapM_eq_ok {f : α → Except ε β} {g : α → β} {items : List α}
    (hok : ∀ item ∈ items, f item = .ok (g item)) : items.mapM f = .ok (items.map g) := by
  induction items with
  | nil => rfl
  | cons item rest ih =>
    have hrest := ih fun other hother => hok other (List.mem_cons_of_mem _ hother)
    rw [List.mapM_cons, hok item List.mem_cons_self, hrest]
    rfl

/-- Every result of an attempt for each item of a list is that of one item. -/
theorem mem_of_mapM {f : α → Except ε β} {items : List α} {results : List β}
    (hok : items.mapM f = .ok results) : ∀ b ∈ results, ∃ item ∈ items, f item = .ok b := by
  rw [mapM_eq_ok_iff] at hok
  induction hok with
  | nil => nofun
  | cons hitem _ ih =>
    refine List.forall_mem_cons.mpr ⟨⟨_, List.mem_cons_self, hitem⟩, ?_⟩
    intro b hb
    obtain ⟨item, hmem, hread⟩ := ih b hb
    exact ⟨item, List.mem_cons_of_mem _ hmem, hread⟩

end EngineBindings
