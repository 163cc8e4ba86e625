/-
  EngineBindings/Dictionary.lean
  ==============================
  **Dictionaries that remember the order of their keys.**

  The fields of a document, the constants of an enum and the classes of an engine are all
  looked up by name and all listed in the order in which the names first came.  A dictionary
  is a list of entries with one entry a key: a repeated key keeps its first place and takes
  its last value.
-/

namespace EngineBindings

/-- Entries in the order in which their keys first came. -/
abbrev Dictionary (α β : Type) := List (α × β)

namespace Dictionary

variable {α β : Type} [BEq α]

/-- The value of the first entry with a key. -/
def get? (key : α) : Dictionary α β → Option β
  | [] => none
  | (k, v) :: rest => if k == key then some v else get? key rest

/-- The dictionary with the value of `key` set: in place when the key is known, at the end
    when it is new. -/
def insert (key : α) (value : β) : Dictionary α β → Dictionary α β
  | [] => [(key, value)]
  | (k, v) :: rest => if k == key then (k, value) :: rest else (k, v) :: insert key value rest

/-- The dictionary without the entry of a key. -/
def erase (key : α) : Dictionary α β → Dictionary α β
  | [] => []
  | (k, v) :: rest => if k == key then rest else (k, v) :: erase key rest

/-- The dictionary of a list of pairs, taken from left to right. -/
def ofPairs (pairs : List (α × β)) : Dictionary α β :=
  pairs.foldl (fun entries (k, v) => insert k v entries) []

def keys (entries : Dictionary α β) : List α :=
  entries.map Prod.fst

theorem get?_insert_self [LawfulBEq α] (key : α) (value : β) (entries : Dictionary α β) :
    get? key (insert key value entries) = some value := by
  induction entries with
  | nil => simp [insert, get?]
  | cons entry rest ih =>
    obtain ⟨k, v⟩ := entry
    by_cases h : (k == key) = true
    · simp [insert, get?, h]
    · simp [insert, get?, h, ih]

theorem get?_insert_of_ne [LawfulBEq α] {key other : α} (h : key ≠ other) (value : β)
    (entries : Dictionary α β) :
    get? other (insert key value entries) = get? other entries := by
  induction entries with
  | nil => simp [insert, get?, h]
  | cons entry rest ih =>
    obtain ⟨k, v⟩ := entry
    by_cases hk : k = key
    · simp [insert, get?, hk, h]
    · simp [insert, get?, hk, ih]

/-- A key that is new is gone without a trace once it is erased. -/
theorem erase_insert_of_get?_eq_none [LawfulBEq α] {key : α} {entries : Dictionary α β}
    (new : get? key entries = none) (value : β) :
    erase key (insert key value entries) = entries := by
  induction entries with
  | nil => simp [insert, erase]
  | cons entry rest ih =>
    obtain ⟨k, v⟩ := entry
    by_cases h : (k == key) = true
    · simp [get?, h] at new
    · simp only [get?, h] at new
      simp [insert, erase, h, ih new]

end Dictionary

end EngineBindings
