/-
  EngineBindings/Proofs/Json/TextKeys.lean
  ========================================
  **Texts among the values of a document.**

  Values are compared by what they stand for, so a number and a truth value may be one key.
  With a text nothing agrees but the same text (`beq_string_iff`).  So a dictionary whose keys
  are all texts is one of texts, seen through the constructor of texts: it is built, asked and
  listed as that one is.

  What a text or an object lists are texts, so whatever lists something else is a list
  (`cases_of_elements?`).
-/
import EngineBindings.Json.Value
import EngineBindings.Proofs.Dictionary

namespace EngineBindings.Json

variable {β : Type}

theorem beq_string_iff {value : Json} {s : String} : (value == string s) = true ↔ value = string s := by
  change agrees value (string s) = true ↔ _
  cases value with
  | string t => simp [agrees, scalarAgrees]
  | null => simp [agrees, scalarAgrees, scalarAgrees.integer?]
  | bool b => simp [agrees, scalarAgrees, scalarAgrees.integer?]
  | int n => simp [agrees, scalarAgrees, scalarAgrees.integer?]
  | float x => simp [agrees, scalarAgrees, scalarAgrees.integer?]
  | array items => simp [agrees, scalarAgrees, scalarAgrees.integer?]
  | object fields => simp [agrees, scalarAgrees, scalarAgrees.integer?]

theorem isEmpty_string_iff {s : String} : (string s).isEmpty = true ↔ s = "" := by
  simp [isEmpty]

/-- What is walked over without a text coming up is a list, or there is nothing in it. -/
theorem cases_of_elements? {value : Json} {items : List Json}
    (hwalk : value.elements? = some items) (hno_text : ∀ s, string s ∉ items) :
    value = array items ∨ items = [] ∧ (value = string "" ∨ value = object []) := by
  cases value with
  | array found => exact Or.inl (congrArg array (Option.some.inj hwalk))
  | string text =>
    cases Option.some.inj hwalk
    cases hchars : text.toList with
    | nil => exact Or.inr ⟨rfl, Or.inl (congrArg string (String.toList_eq_nil_iff.mp hchars))⟩
    | cons c rest => exact absurd (by simp [hchars]) (hno_text (String.ofList [c]))
  | object fields =>
    cases Option.some.inj hwalk
    cases fields with
    | nil => exact Or.inr ⟨rfl, Or.inr rfl⟩
    | cons field rest => exact absurd (by simp) (hno_text field.1)
  | _ => cases hwalk

/-! ### Dictionaries of texts -/

def textKeys (entries : List (String × β)) : List (Json × β) :=
  entries.map fun entry => (string entry.1, entry.2)

theorem exists_textKeys {entries : List (Json × β)}
    (htexts : ∀ entry ∈ entries, ∃ s, entry.1 = string s) :
    ∃ texts : List (String × β), entries = textKeys texts := by
  induction entries with
  | nil => exact ⟨[], rfl⟩
  | cons entry rest ih =>
    obtain ⟨texts, hrest⟩ := ih fun other hother => htexts other (List.mem_cons_of_mem _ hother)
    obtain ⟨s, hs⟩ := htexts entry List.mem_cons_self
    refine ⟨(s, entry.2) :: texts, ?_⟩
    rw [hrest, textKeys, textKeys, List.map_cons, ← hs]

theorem get?_textKeys (key : String) (entries : List (String × β)) :
    Dictionary.get? (string key) (textKeys entries) = Dictionary.get? key entries := by
  induction entries with
  | nil => rfl
  | cons entry rest ih =>
    rw [textKeys, List.map_cons, Dictionary.get?, Dictionary.get?, string_beq_string]
    split
    · rfl
    · exact ih

theorem insert_textKeys (key : String) (value : β) (entries : List (String × β)) :
    Dictionary.insert (string key) value (textKeys entries) =
      textKeys (Dictionary.insert key value entries) := by
  induction entries with
  | nil => rfl
  | cons entry rest ih =>
    rw [textKeys, List.map_cons, Dictionary.insert, Dictionary.insert, string_beq_string]
    split
    · rfl
    · exact congrArg ((string entry.1, entry.2) :: ·) ih

theorem ofPairs_textKeys (pairs : List (String × β)) :
    Dictionary.ofPairs (textKeys pairs) = textKeys (Dictionary.ofPairs pairs) := by
  induction pairs using List.reverseRecOn with
  | nil => rfl
  | append_singleton front pair ih =>
    have hkeys : textKeys (front ++ [pair]) = textKeys front ++ [(string pair.1, pair.2)] :=
      List.map_append
    rw [hkeys, Dictionary.ofPairs_concat, Dictionary.ofPairs_concat, ih, insert_textKeys]

theorem keys_textKeys (entries : List (String × β)) :
    Dictionary.keys (textKeys entries) = (Dictionary.keys entries).map string := by
  simp [textKeys, Dictionary.keys]

theorem eraseDups_map_string (names : List String) :
    (names.map string).eraseDups = names.eraseDups.map string := by
  match names with
  | [] => rfl
  | name :: rest =>
    rw [List.map_cons, List.eraseDups_cons, List.eraseDups_cons, List.map_cons, List.filter_map,
      Function.comp_def]
    simp only [string_beq_string]
    rw [eraseDups_map_string (rest.filter fun other => !other == name)]
termination_by names.length
decreasing_by exact Nat.lt_succ_of_le (List.length_filter_le _ _)

/-! ### Pairs with texts as keys -/

/-- The keys of a dictionary made of pairs stand where they first came. -/
theorem keys_ofPairs_of_names {pairs : List (Json × β)} {names : List String}
    (hnames : pairs.map Prod.fst = names.map string) :
    Dictionary.keys (Dictionary.ofPairs pairs) = names.eraseDups.map string := by
  obtain ⟨texts, rfl⟩ : ∃ texts : List (String × β), pairs = textKeys texts := by
    apply exists_textKeys
    intro pair hpair
    obtain ⟨s, -, hs⟩ := List.mem_map.mp (hnames ▸ List.mem_map_of_mem hpair)
    exact ⟨s, hs.symm⟩
  have htexts : texts.map Prod.fst = names := by
    apply (List.map_inj_right (fun _ _ => string.inj)).mp
    rw [← hnames, textKeys, List.map_map, List.map_map]
    rfl
  rw [ofPairs_textKeys, keys_textKeys, Dictionary.keys_ofPairs, htexts]

variable {pairs : List (Json × β)} (htexts : ∀ pair ∈ pairs, ∃ s, pair.1 = string s)

include htexts

theorem get?_ofPairs_eq_some_iff {n : String} {value : β} :
    Dictionary.get? (string n) (Dictionary.ofPairs pairs) = some value ↔
      LastItem (fun pair => pair.1 = string n) pairs (string n, value) := by
  obtain ⟨texts, rfl⟩ := exists_textKeys htexts
  rw [ofPairs_textKeys, get?_textKeys, Dictionary.get?_ofPairs_eq_some_iff, textKeys,
    lastItem_map_iff]
  constructor
  · intro hlast
    exact ⟨(n, value), rfl, by simpa using hlast⟩
  · rintro ⟨⟨m, v⟩, hpair, hlast⟩
    simp only [Prod.mk.injEq, string.injEq] at hpair hlast
    rw [hpair.1, hpair.2] at hlast
    exact hlast

theorem get?_ofPairs_eq_none_iff {n : String} :
    Dictionary.get? (string n) (Dictionary.ofPairs pairs) = none ↔
      ∀ pair ∈ pairs, pair.1 ≠ string n := by
  obtain ⟨texts, rfl⟩ := exists_textKeys htexts
  rw [ofPairs_textKeys, get?_textKeys, Dictionary.get?_ofPairs_eq_none_iff]
  simp only [textKeys, List.forall_mem_map, ne_eq, string.injEq]

theorem mem_keys_ofPairs_iff {key : Json} :
    key ∈ Dictionary.keys (Dictionary.ofPairs pairs) ↔ key ∈ pairs.map Prod.fst := by
  obtain ⟨texts, rfl⟩ := exists_textKeys htexts
  rw [ofPairs_textKeys, keys_textKeys, Dictionary.keys_ofPairs, textKeys, List.map_map]
  simp only [List.mem_map, List.mem_eraseDups, exists_exists_and_eq_and, Function.comp_apply]

end EngineBindings.Json
