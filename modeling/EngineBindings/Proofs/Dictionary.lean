/-
  EngineBindings/Proofs/Dictionary.lean
  =====================================
  **Entries under different keys do not meet.**

  What is done under one key is not seen under another, so two changes under different keys
  may be made in either order, and a second value under one key makes the first as if it had
  never been there.  And no value is in a dictionary that was not put there.

  A dictionary made of pairs lists each key where its first pair stands (`keys_ofPairs`) and
  holds the value of its last pair (`get?_ofPairs_eq_some_iff`).
-/
import EngineBindings.Dictionary
import Mathlib.Data.List.Induction

namespace EngineBindings

/-! ### The last item of a kind -/

section LastItem

variable {α β : Type}

def LastItem (p : α → Prop) (items : List α) (item : α) : Prop :=
  ∃ front back, items = front ++ item :: back ∧ p item ∧ ∀ other ∈ back, ¬ p other

theorem lastItem_concat_iff {p : α → Prop} {front : List α} {last item : α} :
    LastItem p (front ++ [last]) item ↔
      p last ∧ last = item ∨ ¬ p last ∧ LastItem p front item := by
  constructor
  · rintro ⟨before, after, hitems, hitem, hafter⟩
    rcases List.eq_nil_or_concat after with rfl | ⟨middle, other, rfl⟩
    · left
      obtain ⟨-, hlast⟩ := List.append_inj' hitems rfl
      rw [List.singleton_inj] at hlast
      exact ⟨hlast ▸ hitem, hlast⟩
    · right
      rw [List.concat_eq_append, ← List.cons_append, ← List.append_assoc] at hitems
      obtain ⟨hfront, hlast⟩ := List.append_inj' hitems rfl
      rw [List.singleton_inj] at hlast
      refine ⟨hafter last (by simp [hlast]), before, middle, hfront, hitem, ?_⟩
      intro other' hother
      exact hafter other' (by simp [hother])
  · rintro (⟨hlast, rfl⟩ | ⟨hlast, before, after, rfl, hitem, hafter⟩)
    · exact ⟨front, [], rfl, hlast, nofun⟩
    · refine ⟨before, after ++ [last], by simp, hitem, ?_⟩
      intro other hother
      rcases List.mem_append.mp hother with hold | hnew
      · exact hafter other hold
      · rw [List.mem_singleton.mp hnew]
        exact hlast

theorem lastItem_congr {p q : α → Prop} {items : List α} (hsame : ∀ item ∈ items, (p item ↔ q item))
    {item : α} : LastItem p items item ↔ LastItem q items item := by
  unfold LastItem
  refine exists_congr fun front => exists_congr fun back => and_congr_right ?_
  rintro rfl
  refine and_congr (hsame item (by simp)) (forall₂_congr fun other hother => ?_)
  rw [hsame other (by simp [hother])]

/-- The last of what items come to is what the last such item comes to. -/
theorem lastItem_filterMap_iff {f : α → Option β} {p : β → Prop} {items : List α} {b : β} :
    LastItem p (items.filterMap f) b ↔
      ∃ item, f item = some b ∧ LastItem (fun other => ∃ c, f other = some c ∧ p c) items item := by
  constructor
  · rintro ⟨front, back, hitems, hb, hback⟩
    obtain ⟨before, rest, rfl, -, hrest⟩ := List.filterMap_eq_append_iff.mp hitems
    obtain ⟨skipped, item, after, rfl, -, hitem, rfl⟩ := List.filterMap_eq_cons_iff.mp hrest
    refine ⟨item, hitem, before ++ skipped, after, by simp, ⟨b, hitem, hb⟩, ?_⟩
    rintro other hother ⟨c, hc, hpc⟩
    exact hback c (List.mem_filterMap.mpr ⟨other, hother, hc⟩) hpc
  · rintro ⟨item, hitem, front, back, rfl, ⟨c, hc, hpc⟩, hback⟩
    rw [hitem] at hc
    cases hc
    refine ⟨front.filterMap f, back.filterMap f, by simp [hitem], hpc, ?_⟩
    intro c hc hpc'
    obtain ⟨other, hother, hfc⟩ := List.mem_filterMap.mp hc
    exact hback other hother ⟨c, hfc, hpc'⟩

theorem lastItem_map_iff {f : α → β} {p : β → Prop} {items : List α} {b : β} :
    LastItem p (items.map f) b ↔ ∃ item, f item = b ∧ LastItem (fun other => p (f other)) items item := by
  rw [← List.filterMap_eq_map, lastItem_filterMap_iff]
  simp

end LastItem

namespace Dictionary

variable {α β : Type} [BEq α]

/-! ### Where a value comes from -/

theorem mem_of_get? {key : α} {value : β} {entries : Dictionary α β}
    (hvalue : get? key entries = some value) : ∃ k, (k, value) ∈ entries := by
  induction entries with
  | nil => cases hvalue
  | cons entry rest ih =>
    obtain ⟨k, v⟩ := entry
    rw [get?] at hvalue
    split at hvalue
    · cases hvalue
      exact ⟨k, List.mem_cons_self⟩
    · obtain ⟨other, hother⟩ := ih hvalue
      exact ⟨other, List.mem_cons_of_mem _ hother⟩

theorem mem_insert {key k : α} {value v : β} {entries : Dictionary α β}
    (hmem : (k, v) ∈ insert key value entries) : v = value ∨ (k, v) ∈ entries := by
  induction entries with
  | nil =>
    cases List.mem_singleton.mp hmem
    exact Or.inl rfl
  | cons entry rest ih =>
    obtain ⟨first, old⟩ := entry
    rw [insert] at hmem
    split at hmem
    · rcases List.mem_cons.mp hmem with heq | hrest
      · cases heq
        exact Or.inl rfl
      · exact Or.inr (List.mem_cons_of_mem _ hrest)
    · rcases List.mem_cons.mp hmem with heq | hrest
      · rw [heq]
        exact Or.inr List.mem_cons_self
      · rcases ih hrest with hvalue | hold
        · exact Or.inl hvalue
        · exact Or.inr (List.mem_cons_of_mem _ hold)

theorem mem_ofPairs {pairs : List (α × β)} {k : α} {v : β} (hmem : (k, v) ∈ ofPairs pairs) :
    ∃ key, (key, v) ∈ pairs := by
  have hfold : ∀ (rest : List (α × β)) (entries : Dictionary α β),
      (k, v) ∈ rest.foldl (fun entries pair => insert pair.1 pair.2 entries) entries →
        (k, v) ∈ entries ∨ ∃ key, (key, v) ∈ rest := by
    intro rest
    induction rest with
    | nil => exact fun entries hin => Or.inl hin
    | cons pair rest ih =>
      intro entries hin
      rcases ih _ hin with hentries | ⟨key, hkey⟩
      · rcases mem_insert hentries with rfl | hold
        · exact Or.inr ⟨pair.1, List.mem_cons_self⟩
        · exact Or.inl hold
      · exact Or.inr ⟨key, List.mem_cons_of_mem _ hkey⟩
  rcases hfold pairs [] hmem with hnil | hpairs
  · cases hnil
  · exact hpairs

theorem ofPairs_concat (front : List (α × β)) (pair : α × β) :
    ofPairs (front ++ [pair]) = insert pair.1 pair.2 (ofPairs front) := by
  simp [ofPairs]

/-! ### Different keys -/

variable [LawfulBEq α]

theorem insert_insert_self (key : α) (first second : β) (entries : Dictionary α β) :
    insert key second (insert key first entries) = insert key second entries := by
  induction entries with
  | nil => simp [insert]
  | cons entry rest ih =>
    obtain ⟨k, v⟩ := entry
    by_cases hk : (k == key) = true
    · simp [insert, hk]
    · simp [insert, hk, ih]

theorem erase_insert_of_ne {key other : α} (hne : key ≠ other) (value : β)
    (entries : Dictionary α β) :
    erase key (insert other value entries) = insert other value (erase key entries) := by
  induction entries with
  | nil => simp [insert, erase, Ne.symm hne]
  | cons entry rest ih =>
    obtain ⟨k, v⟩ := entry
    by_cases hother : k = other
    · simp [insert, erase, hother, Ne.symm hne]
    · by_cases hkey : k = key
      · simp [insert, erase, hkey, hne]
      · simp [insert, erase, hother, hkey, ih]

theorem get?_insert_eq_none_iff {key other : α} {value : β} {entries : Dictionary α β} :
    get? other (insert key value entries) = none ↔ get? other entries = none ∧ other ≠ key := by
  by_cases h : key = other
  · subst h
    simp [get?_insert_self]
  · rw [get?_insert_of_ne h]
    simp [Ne.symm h]

theorem mem_keys_of_get? {key : α} {value : β} {entries : Dictionary α β}
    (hvalue : get? key entries = some value) : key ∈ keys entries := by
  induction entries with
  | nil => simp [get?] at hvalue
  | cons entry rest ih =>
    obtain ⟨k, v⟩ := entry
    by_cases hk : k = key
    · simp [keys, hk]
    · simp only [get?, beq_iff_eq, hk, if_false] at hvalue
      exact List.mem_cons_of_mem _ (ih hvalue)

/-! ### Dictionaries made of pairs -/

theorem get?_ofPairs_eq_some_iff {pairs : List (α × β)} {key : α} {value : β} :
    get? key (ofPairs pairs) = some value ↔
      LastItem (fun pair => pair.1 = key) pairs (key, value) := by
  induction pairs using List.reverseRecOn with
  | nil =>
    refine iff_of_false nofun ?_
    rintro ⟨front, back, hpairs, -, -⟩
    simp at hpairs
  | append_singleton front pair ih =>
    obtain ⟨k, v⟩ := pair
    rw [ofPairs_concat, lastItem_concat_iff, ← ih]
    by_cases hk : k = key
    · subst hk
      simp [get?_insert_self]
    · simp [get?_insert_of_ne hk, hk]

theorem get?_ofPairs_eq_none_iff {pairs : List (α × β)} {key : α} :
    get? key (ofPairs pairs) = none ↔ ∀ pair ∈ pairs, pair.1 ≠ key := by
  induction pairs using List.reverseRecOn with
  | nil => exact iff_of_true rfl nofun
  | append_singleton front pair ih =>
    rw [ofPairs_concat, get?_insert_eq_none_iff, ih]
    simp [or_imp, forall_and, eq_comm]

/-- A key that is known keeps its place, a new one goes to the end. -/
theorem keys_insert (key : α) (value : β) (entries : Dictionary α β) :
    keys (insert key value entries) =
      if key ∈ keys entries then keys entries else keys entries ++ [key] := by
  induction entries with
  | nil => simp [insert, keys]
  | cons entry rest ih =>
    obtain ⟨k, v⟩ := entry
    by_cases hk : k = key
    · simp [insert, keys, hk]
    · have hkeys : keys (insert key value ((k, v) :: rest)) =
          k :: keys (insert key value rest) := by
        simp [insert, keys, hk]
      have hcons : keys ((k, v) :: rest) = k :: keys rest := rfl
      rw [hkeys, ih, hcons]
      by_cases hmem : key ∈ keys rest
      · rw [if_pos hmem, if_pos (List.mem_cons_of_mem _ hmem)]
      · rw [if_neg hmem, if_neg (by simp [Ne.symm hk, hmem]), List.cons_append]

theorem keys_ofPairs (pairs : List (α × β)) :
    keys (ofPairs pairs) = (pairs.map Prod.fst).eraseDups := by
  induction pairs using List.reverseRecOn with
  | nil => rfl
  | append_singleton front pair ih =>
    rw [ofPairs_concat, keys_insert, ih, List.map_append, List.eraseDups_append]
    by_cases hmem : pair.1 ∈ front.map Prod.fst
    · rw [if_pos (List.mem_eraseDups.mpr hmem)]
      simp [List.removeAll, hmem]
    · rw [if_neg (mt List.mem_eraseDups.mp hmem)]
      simp [List.removeAll, hmem, List.eraseDups_cons]

end Dictionary

end EngineBindings
