/-
  EngineBindings/Proofs/FileTree/Straight.lean
  ============================================
  **Ways without the steps back.**

  A name and the `..` behind it may be left out of a way.  The rest of the way are the very names
  of the place that the way leads to, if it leads anywhere, and it leads there too
  (`walk_cancelParents`): whatever the way has been through are directories, so the place and its
  front parts can be walked to in one go.  Such a way is no longer than the first, in its names
  and in its text, so a file is prepared in the directory that it stands in
  (`locate_straightParent`).
-/
import EngineBindings.Proofs.FileTree.Effect

namespace EngineBindings

/-! ### Names that are left -/

namespace Path

theorem cancelParents_concat (front : List String) (part : String) :
    cancelParents (front ++ [part]) =
      if part = ".." then (cancelParents front).dropLast else cancelParents front ++ [part] := by
  unfold cancelParents
  rw [List.foldl_append]
  rfl

theorem cancelParents_sublist (parts : List String) : (cancelParents parts).Sublist parts := by
  induction parts using List.reverseRecOn with
  | nil => exact List.Sublist.refl []
  | append_singleton front part ih =>
    rw [cancelParents_concat]
    split
    · exact ((List.dropLast_sublist _).trans ih).trans (List.sublist_append_left _ _)
    · exact ih.append (List.Sublist.refl [part])

theorem up_not_mem_cancelParents (parts : List String) : ".." ∉ cancelParents parts := by
  induction parts using List.reverseRecOn with
  | nil => exact List.not_mem_nil
  | append_singleton front part ih =>
    rw [cancelParents_concat]
    split
    · exact fun hup => ih (List.dropLast_subset _ hup)
    · rename_i hpart
      intro hup
      rcases List.mem_append.mp hup with hfront | hlast
      · exact ih hfront
      · exact hpart (List.mem_singleton.mp hlast).symm

/-! ### Texts that are no longer -/

theorem utf8ByteSize_intercalate_cons (separator name : String) (rest : List String) :
    (separator.intercalate (name :: rest)).utf8ByteSize =
      name.utf8ByteSize + (if rest = [] then 0
        else separator.utf8ByteSize + (separator.intercalate rest).utf8ByteSize) := by
  split
  · rename_i hnil
    rw [hnil, String.intercalate_singleton, Nat.add_zero]
  · rename_i hrest
    rw [String.intercalate_cons_of_ne_nil hrest, String.utf8ByteSize_append,
      String.utf8ByteSize_append, Nat.add_assoc]

theorem utf8ByteSize_intercalate_le (separator : String) {fewer names : List String}
    (hsublist : fewer.Sublist names) :
    (separator.intercalate fewer).utf8ByteSize ≤ (separator.intercalate names).utf8ByteSize := by
  induction hsublist with
  | slnil => exact Nat.le_refl _
  | @cons fewer names name hsublist ih =>
    rw [utf8ByteSize_intercalate_cons]
    split
    · rename_i hnil
      subst hnil
      rw [List.sublist_nil.mp hsublist, String.intercalate_nil]
      exact Nat.zero_le _
    · omega
  | @cons_cons fewer names name hsublist ih =>
    rw [utf8ByteSize_intercalate_cons, utf8ByteSize_intercalate_cons]
    by_cases hnil : names = []
    · subst hnil
      obtain rfl := List.sublist_nil.mp hsublist
      exact Nat.le_refl _
    · rw [if_neg hnil]
      split <;> omega

/-- The text of the straight directory is no longer than the text of the path, but for the point
    that stands for no names. -/
theorem utf8ByteSize_text_straightParent (path : Path) :
    path.straightParent.text.utf8ByteSize ≤ max 1 path.text.utf8ByteSize := by
  have hparts : path.straightParent.parts.Sublist path.parts :=
    (cancelParents_sublist _).trans (List.dropLast_sublist _)
  unfold text
  split
  · exact Nat.le_max_left _ _
  · rename_i hfew
    have hnames : ¬ (path.slashes = 0 ∧ path.parts = []) := by
      rintro ⟨hslashes, hnil⟩
      rw [hnil] at hparts
      exact hfew ⟨hslashes, List.sublist_nil.mp hparts⟩
    have hshorter := utf8ByteSize_intercalate_le "/" hparts
    have hslashes : path.straightParent.slashes = path.slashes := rfl
    rw [if_neg hnames, String.utf8ByteSize_append, String.utf8ByteSize_append, hslashes]
    omega

theorem holdsNull_straightParent {path : Path} (hplain : path.holdsNull = false) :
    path.straightParent.holdsNull = false := by
  unfold holdsNull at hplain ⊢
  rw [List.any_eq_false] at hplain ⊢
  intro part hpart
  exact hplain part (List.dropLast_subset _ ((cancelParents_sublist _).subset hpart))

end Path

namespace FileTree

variable {tree : FileTree}

/-! ### Straight ways -/

theorem walk_append_eq_ok {here place : Location} {front back : List String}
    (hwalk : walk tree here (front ++ back) = .ok place) :
    ∃ there, walk tree here front = .ok there ∧ walk tree there back = .ok place := by
  rw [walk_append] at hwalk
  cases hfront : walk tree here front with
  | error e =>
    rw [hfront] at hwalk
    cases hwalk
  | ok there =>
    rw [hfront] at hwalk
    exact ⟨there, rfl, hwalk⟩

theorem walk_up {here place : Location} (hwalk : walk tree here [".."] = .ok place) :
    place = here.dropLast := by
  simp only [walk, if_true] at hwalk
  split at hwalk
  · exact (Except.ok.inj hwalk).symm
  · cases hwalk
  · cases hwalk

/-- A straight way to a place goes through the directory of the place. -/
theorem walk_dropLast {place : Location} (hplain : ".." ∉ place)
    (hwalk : walk tree [] place = .ok place) :
    walk tree [] place.dropLast = .ok place.dropLast ∧
      tree.node? place.dropLast = some .directory := by
  rcases List.eq_nil_or_concat place with rfl | ⟨directory, name, rfl⟩
  · exact ⟨rfl, by simp [node?]⟩
  · rw [List.concat_eq_append] at hplain hwalk ⊢
    have hup : name ≠ ".." := fun h => hplain (h ▸ List.mem_append_right _ List.mem_cons_self)
    obtain ⟨there, hfront, hnode, hplace⟩ := walk_concat hup hwalk
    have hthere : there = directory := List.append_cancel_right hplace.symm
    rw [List.dropLast_concat]
    rw [hthere] at hfront hnode
    exact ⟨hfront, hnode⟩

/-- The names that are left of a way are those of the place, and lead there. -/
theorem walk_cancelParents {parts : List String} {place : Location}
    (hwalk : walk tree [] parts = .ok place) :
    Path.cancelParents parts = place ∧ walk tree [] place = .ok place := by
  -- from the last name of the way: it is behind a place that can be walked to straight
  induction parts using List.reverseRecOn generalizing place with
  | nil =>
    cases hwalk
    exact ⟨rfl, rfl⟩
  | append_singleton front part ih =>
    obtain ⟨here, hfront, hlast⟩ := walk_append_eq_ok hwalk
    obtain ⟨hnames, hstraight⟩ := ih hfront
    have hplain : ".." ∉ here := hnames ▸ Path.up_not_mem_cancelParents front
    rw [Path.cancelParents_concat, hnames]
    by_cases hup : part = ".."
    · rw [hup] at hlast
      rw [if_pos hup, walk_up hlast]
      exact ⟨rfl, (walk_dropLast hplain hstraight).1⟩
    · have hplace := walk_straight (by simpa using Ne.symm hup) hlast
      rw [if_neg hup, hplace, walk_append, hstraight]
      exact ⟨rfl, hplace ▸ hlast⟩

/-! ### The directory of a path -/

/-- The straight directory of a path may be asked for wherever the path may. -/
theorem locate_straightParent_eq {path : Path} {place : Location}
    (hlocate : tree.locate path = .ok place) :
    tree.locate path.straightParent = walk tree [] path.straightParent.parts := by
  unfold locate locateFrom at hlocate ⊢
  split at hlocate
  · cases hlocate
  · rename_i hplain
    split at hlocate
    · cases hlocate
    · rename_i hshort
      have hsize := Path.utf8ByteSize_text_straightParent path
      have hlimit : maxPathBytes = 4095 := rfl
      rw [if_neg (by simpa using Path.holdsNull_straightParent (by simpa using hplain)),
        if_neg (by omega), Path.parts_under_root]

/-- The path without names leads to the root. -/
theorem parts_ne_nil_of_locate {path : Path} {place : Location}
    (hlocate : tree.locate path = .ok place) (hnode : tree.node? place ≠ some .directory) :
    path.parts ≠ [] := by
  intro hnil
  have hwalk := walk_of_locate hlocate
  rw [hnil] at hwalk
  cases hwalk
  exact hnode (by simp [node?])

/-- A path to something else than a directory leads to a child of its straight directory. -/
theorem locate_straightParent {path : Path} {place : Location}
    (hlocate : tree.locate path = .ok place) (hnode : tree.node? place ≠ some .directory) :
    ∃ directory, path.name ≠ ".." ∧ place = directory ++ [path.name] ∧
      tree.locate path.straightParent = .ok directory ∧
      tree.node? directory = some .directory := by
  rw [locate_straightParent_eq hlocate]
  have hwalk := walk_of_locate hlocate
  rcases List.eq_nil_or_concat path.parts with hnil | ⟨front, name, hparts⟩
  · exact absurd hnil (parts_ne_nil_of_locate hlocate hnode)
  · rw [List.concat_eq_append] at hparts
    have hname : path.name = name := by
      simp [Path.name, hparts]
    have hfrontparts : path.straightParent.parts = Path.cancelParents front := by
      simp [Path.straightParent, Path.parent, hparts]
    rw [hname, hfrontparts]
    rw [hparts] at hwalk
    by_cases hup : name = ".."
    · -- a step back leads to a directory
      exfalso
      obtain ⟨here, hfront, hlast⟩ := walk_append_eq_ok hwalk
      obtain ⟨hnames, hstraight⟩ := walk_cancelParents hfront
      have hplain : ".." ∉ here := hnames ▸ Path.up_not_mem_cancelParents front
      rw [hup] at hlast
      rw [walk_up hlast] at hnode
      exact hnode (walk_dropLast hplain hstraight).2
    · obtain ⟨here, hfront, hdirectory, hplace⟩ := walk_concat hup hwalk
      obtain ⟨hnames, hstraight⟩ := walk_cancelParents hfront
      rw [hnames]
      exact ⟨here, hup, hplace, hstraight, hdirectory⟩

end FileTree

end EngineBindings
