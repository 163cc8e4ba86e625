/-
  EngineBindings/Proofs/FileTree/Walk.lean
  ========================================
  **Ways through a tree that grows.**

  A walk asks of the nodes on its way only that they are directories.  So a way that leads
  somewhere leads to the same place in every tree that has kept the directories of the first
  (`walk_of_keepsDirectories`), whatever has become of the files.  The other way round, a way
  without `..` that leads to a node in some tree leads there in any tree that has the node,
  if the tree has no node without a directory above it (`walk_of_rooted`).

  Making a directory with the missing ones above it changes nothing but places where nothing
  was, each of which a front part of the path leads to, and it does nothing at all where the
  directory stands already (`ensureDirectory_differsOnly`, `ensureDirectory_eq_self`).
-/
import EngineBindings.FileTree.Basic
import Mathlib.Data.List.Induction

namespace EngineBindings

/-- The path of the names alone: how a path is seen from the root does not depend on the
    slashes at its start. -/
theorem Path.parts_under_root (path : Path) : (Path.root.under path).parts = path.parts := by
  unfold Path.under
  split <;> simp [Path.root]

namespace FileTree

/-! ### Walks -/

theorem walk_append (tree : FileTree) (here : Location) (front back : List String) :
    walk tree here (front ++ back) =
      (walk tree here front >>= fun there => walk tree there back) := by
  induction front generalizing here with
  | nil => rfl
  | cons part rest ih =>
    simp only [List.cons_append, walk]
    split
    · split
      · exact ih _
      · split
        · rfl
        · exact ih _
    · rfl
    · rfl

/-- The last name of a walk, if it is not `..`, is the last name of the place. -/
theorem walk_concat {tree : FileTree} {here place : Location} {front : List String}
    {name : String} (hup : name ≠ "..") (hwalk : walk tree here (front ++ [name]) = .ok place) :
    ∃ there, walk tree here front = .ok there ∧ tree.node? there = some .directory ∧
      place = there ++ [name] := by
  rw [walk_append] at hwalk
  cases hfront : walk tree here front with
  | error e =>
    rw [hfront] at hwalk
    cases hwalk
  | ok there =>
    rw [hfront] at hwalk
    change walk tree there [name] = .ok place at hwalk
    refine ⟨there, rfl, ?_⟩
    simp only [walk, if_neg hup] at hwalk
    split at hwalk
    · rename_i hnode
      split at hwalk
      · cases hwalk
      · exact ⟨hnode, (Except.ok.inj hwalk).symm⟩
    · cases hwalk
    · cases hwalk

theorem walk_of_locate {tree : FileTree} {path : Path} {place : Location}
    (hlocate : tree.locate path = .ok place) : walk tree [] path.parts = .ok place := by
  unfold locate locateFrom at hlocate
  split at hlocate
  · cases hlocate
  · split at hlocate
    · cases hlocate
    · rwa [Path.parts_under_root] at hlocate

/-! ### Trees that keep their directories -/

def KeepsDirectories (before after : FileTree) : Prop :=
  ∀ location, before.node? location = some .directory → after.node? location = some .directory

theorem KeepsDirectories.refl (tree : FileTree) : KeepsDirectories tree tree :=
  fun _ h => h

theorem KeepsDirectories.trans {first second third : FileTree}
    (hfirst : KeepsDirectories first second) (hsecond : KeepsDirectories second third) :
    KeepsDirectories first third :=
  fun location h => hsecond location (hfirst location h)

/-- A way that leads somewhere leads there as long as no directory is lost. -/
theorem walk_of_keepsDirectories {before after : FileTree}
    (hkeeps : KeepsDirectories before after) {here place : Location} {parts : List String}
    (hwalk : walk before here parts = .ok place) : walk after here parts = .ok place := by
  induction parts generalizing here with
  | nil => exact hwalk
  | cons part rest ih =>
    simp only [walk] at hwalk ⊢
    split at hwalk
    · rename_i hnode
      rw [hkeeps here hnode]
      dsimp only
      split at hwalk
      · rename_i hup
        rw [if_pos hup]
        exact ih hwalk
      · rename_i hup
        rw [if_neg hup]
        split at hwalk
        · cases hwalk
        · rename_i hfits
          rw [if_neg hfits]
          exact ih hwalk
    · cases hwalk
    · cases hwalk

theorem locate_of_keepsDirectories {before after : FileTree}
    (hkeeps : KeepsDirectories before after) {path : Path} {place : Location}
    (hlocate : before.locate path = .ok place) : after.locate path = .ok place := by
  have hwalk := walk_of_keepsDirectories hkeeps (walk_of_locate hlocate)
  unfold locate locateFrom at hlocate ⊢
  rw [Path.parts_under_root] at hlocate ⊢
  split at hlocate
  · cases hlocate
  · rename_i hnull
    rw [if_neg hnull]
    split at hlocate
    · cases hlocate
    · rename_i hlong
      rw [if_neg hlong]
      exact hwalk

/-! ### What differs between two trees -/

/-- The two trees differ only in places of the first kind, which may have changed in any way,
    and of the second, where a directory stands now and nothing stood before. -/
def DiffersOnly (touched made : Location → Prop) (before after : FileTree) : Prop :=
  ∀ location, ¬ touched location →
    after.node? location = before.node? location ∨
      (before.node? location = none ∧ after.node? location = some .directory ∧ made location)

theorem DiffersOnly.refl {touched made : Location → Prop} (tree : FileTree) :
    DiffersOnly touched made tree tree :=
  fun _ _ => Or.inl rfl

theorem DiffersOnly.mono {touched touched' made made' : Location → Prop}
    {before after : FileTree} (hdiffers : DiffersOnly touched made before after)
    (htouched : ∀ location, touched location → touched' location)
    (hmade : ∀ location, made location → made' location) :
    DiffersOnly touched' made' before after := by
  intro location hlocation
  rcases hdiffers location (fun h => hlocation (htouched location h)) with hsame | hnew
  · exact Or.inl hsame
  · exact Or.inr ⟨hnew.1, hnew.2.1, hmade location hnew.2.2⟩

theorem DiffersOnly.trans {touched made : Location → Prop} {first second third : FileTree}
    (hfirst : DiffersOnly touched made first second)
    (hsecond : DiffersOnly touched made second third) :
    DiffersOnly touched made first third := by
  intro location hlocation
  rcases hfirst location hlocation with hsame | hnew
  · rw [← hsame]
    exact hsecond location hlocation
  · rcases hsecond location hlocation with hsame' | hnew'
    · exact Or.inr ⟨hnew.1, hsame'.trans hnew.2.1, hnew.2.2⟩
    · rw [hnew.2.1] at hnew'
      cases hnew'.1

theorem DiffersOnly.keepsDirectories {made : Location → Prop} {before after : FileTree}
    (hdiffers : DiffersOnly (fun _ => False) made before after) :
    KeepsDirectories before after := by
  intro location hnode
  rcases hdiffers location id with hsame | hnew
  · exact hsame.trans hnode
  · exact hnew.2.1

/-- A place that was not touched holds the same file in both trees, or a file in neither. -/
theorem DiffersOnly.file_iff {touched made : Location → Prop} {before after : FileTree}
    (hdiffers : DiffersOnly touched made before after) {location : Location}
    (hlocation : ¬ touched location) (bytes : ByteArray) (mode : Nat) :
    after.node? location = some (.file bytes mode) ↔
      before.node? location = some (.file bytes mode) := by
  rcases hdiffers location hlocation with hsame | ⟨hbefore, hafter, -⟩
  · rw [hsame]
  · rw [hbefore, hafter]
    constructor
    · intro hfile
      cases hfile
    · intro hfile
      cases hfile

/-- A front part of a row of names leads to a place. -/
def OnTheWay (tree : FileTree) (parts : List String) (location : Location) : Prop :=
  ∃ front, front <+: parts ∧ walk tree [] front = .ok location

theorem OnTheWay.of_keepsDirectories {before after : FileTree}
    (hkeeps : KeepsDirectories before after) {parts : List String} {location : Location}
    (hway : OnTheWay before parts location) : OnTheWay after parts location := by
  obtain ⟨front, hfront, hwalk⟩ := hway
  exact ⟨front, hfront, walk_of_keepsDirectories hkeeps hwalk⟩

theorem OnTheWay.append {tree : FileTree} {parts : List String} {location : Location}
    (hway : OnTheWay tree parts location) (more : List String) :
    OnTheWay tree (parts ++ more) location := by
  obtain ⟨front, hfront, hwalk⟩ := hway
  exact ⟨front, hfront.trans (List.prefix_append parts more), hwalk⟩

/-! ### Straight ways -/

def Rooted (tree : FileTree) : Prop :=
  ∀ (here : Location) (name : String), tree.node? (here ++ [name]) ≠ none →
    tree.node? here = some .directory

theorem walk_straight {tree : FileTree} {here place : Location} {parts : List String}
    (hstraight : ".." ∉ parts) (hwalk : walk tree here parts = .ok place) :
    place = here ++ parts := by
  induction parts generalizing here with
  | nil =>
    rw [List.append_nil]
    exact (Except.ok.inj hwalk).symm
  | cons part rest ih =>
    have hup : part ≠ ".." := fun h => hstraight (h ▸ List.mem_cons_self)
    simp only [walk, if_neg hup] at hwalk
    split at hwalk
    · split at hwalk
      · cases hwalk
      · rw [ih (fun h => hstraight (List.mem_cons_of_mem _ h)) hwalk, List.append_assoc,
          List.singleton_append]
    · cases hwalk
    · cases hwalk

/-- A straight way to a node of a rooted tree leads there, if it leads there in some tree. -/
theorem walk_of_rooted {before after : FileTree} (hrooted : before.Rooted)
    {here place : Location} {parts : List String} (hstraight : ".." ∉ parts)
    (hwalk : walk after here parts = .ok place) (hnode : before.node? place ≠ none) :
    walk before here parts = .ok place := by
  induction parts using List.reverseRecOn generalizing place with
  | nil => exact hwalk
  | append_singleton front name ih =>
    have hup : name ≠ ".." := fun h => hstraight (h ▸ List.mem_append_right _ List.mem_cons_self)
    obtain ⟨there, hfront, hdirectory, rfl⟩ := walk_concat hup hwalk
    have hbefore := hrooted there name hnode
    rw [walk_append, hfront] at hwalk
    rw [walk_append, ih (fun h => hstraight (List.mem_append_left _ h)) hfront
      (by rw [hbefore]; nofun)]
    change walk before there [name] = _
    change walk after there [name] = _ at hwalk
    rw [walk, hbefore]
    rwa [walk, hdirectory] at hwalk

/-! ### Directories with the missing ones above them -/

theorem makeDirectory_eq_ok {tree made : FileTree} {path : Path}
    (hmade : tree.makeDirectory path = .ok made) :
    ∃ place, walk tree [] path.parts = .ok place ∧ tree.node? place = none ∧
      made = tree.insert place .directory := by
  unfold makeDirectory at hmade
  cases hlocate : tree.locate path with
  | error e =>
    rw [hlocate] at hmade
    cases hmade
  | ok place =>
    rw [hlocate] at hmade
    simp only [bind, Except.bind] at hmade
    split at hmade
    · cases hmade
    · rename_i hnode
      exact ⟨place, walk_of_locate hlocate, hnode, (Except.ok.inj hmade).symm⟩

theorem ne_root_of_node?_eq_none {tree : FileTree} {place : Location}
    (hnode : tree.node? place = none) : place ≠ [] := by
  rintro rfl
  simp [node?] at hnode

theorem makeDirectory_differsOnly {tree made : FileTree} {path : Path}
    (hmade : tree.makeDirectory path = .ok made) :
    DiffersOnly (fun _ => False) (OnTheWay made path.parts) tree made := by
  obtain ⟨place, hwalk, hnode, rfl⟩ := makeDirectory_eq_ok hmade
  have hbelow := ne_root_of_node?_eq_none hnode
  have hkeeps : KeepsDirectories tree (tree.insert place .directory) := by
    intro location hlocation
    by_cases h : place = location
    · rw [← h]
      exact node?_insert_self tree _ hbelow
    · rw [node?_insert_of_ne tree _ h]
      exact hlocation
  intro location _
  by_cases h : place = location
  · subst h
    exact Or.inr ⟨hnode, node?_insert_self tree _ hbelow,
      path.parts, List.prefix_rfl, walk_of_keepsDirectories hkeeps hwalk⟩
  · exact Or.inl (node?_insert_of_ne tree _ h)

theorem isDirectory_eq_true {tree : FileTree} {path : Path}
    (hdirectory : tree.isDirectory path = .ok true) :
    ∃ place, walk tree [] path.parts = .ok place ∧ tree.node? place = some .directory := by
  unfold isDirectory at hdirectory
  split at hdirectory
  · rename_i hlookup
    unfold lookup lookupFrom at hlookup
    cases hlocate : tree.locateFrom .root path with
    | error e =>
      rw [hlocate] at hlookup
      cases hlookup
    | ok place =>
      rw [hlocate] at hlookup
      simp only [bind, Except.bind] at hlookup
      split at hlookup
      · rename_i hnode
        rw [Except.ok.inj hlookup] at hnode
        exact ⟨place, walk_of_locate hlocate, hnode⟩
      · cases hlookup
  · cases hdirectory
  · cases hdirectory

/-- An attempt is settled with the tree that it made, or with the one that was there. -/
theorem settle_cases (tree : FileTree) (path : Path) (attempt : Except Error FileTree) :
    (∃ made, attempt = .ok made ∧ ensureParts.settle tree path attempt = (made, .ok ())) ∨
      ((ensureParts.settle tree path attempt).1 = tree ∧
        ((ensureParts.settle tree path attempt).2 = .ok () →
          ∃ place, walk tree [] path.parts = .ok place ∧
            tree.node? place = some .directory)) := by
  cases attempt with
  | ok made => exact Or.inl ⟨made, rfl, rfl⟩
  | error e =>
    right
    simp only [ensureParts.settle]
    split
    · rename_i hdirectory
      exact ⟨rfl, fun _ => isDirectory_eq_true hdirectory⟩
    · exact ⟨rfl, nofun⟩
    · exact ⟨rfl, nofun⟩

theorem walk_of_makeDirectory {tree made : FileTree} {path : Path}
    (hmade : tree.makeDirectory path = .ok made) :
    ∃ place, walk made [] path.parts = .ok place ∧ made.node? place = some .directory := by
  obtain ⟨place, hwalk, hnode, heq⟩ := makeDirectory_eq_ok hmade
  have hkeeps := (makeDirectory_differsOnly hmade).keepsDirectories
  refine ⟨place, walk_of_keepsDirectories hkeeps hwalk, ?_⟩
  rw [heq]
  exact node?_insert_self tree _ (ne_root_of_node?_eq_none hnode)

/-- What an attempt to make a row of directories leaves, whether it succeeds or not, and what
    it has reached when it succeeds. -/
theorem ensureParts_spec (tree : FileTree) (slashes : Nat) (names : List String) :
    DiffersOnly (fun _ => False) (OnTheWay (ensureParts tree slashes names).1 names.reverse)
        tree (ensureParts tree slashes names).1 ∧
      ((ensureParts tree slashes names).2 = .ok () →
        ∃ place, walk (ensureParts tree slashes names).1 [] names.reverse = .ok place ∧
          (ensureParts tree slashes names).1.node? place = some .directory) := by
  induction names with
  | nil => exact ⟨DiffersOnly.refl tree, fun _ => ⟨[], rfl, by simp [node?]⟩⟩
  | cons part above ih =>
    rw [ensureParts]
    split
    · rename_i made hmade
      exact ⟨makeDirectory_differsOnly hmade, fun _ => walk_of_makeDirectory hmade⟩
    · cases habove : ensureParts tree slashes above with
      | mk between result =>
        rw [habove] at ih
        obtain ⟨hbetween, hreached⟩ := ih
        have hway : DiffersOnly (fun _ => False) (OnTheWay between (part :: above).reverse)
            tree between := by
          refine hbetween.mono (fun _ h => h) (fun location hlocation => ?_)
          rw [List.reverse_cons]
          exact hlocation.append [part]
        cases result with
        | error e =>
          refine ⟨hway, ?_⟩
          intro hdone
          cases hdone
        | ok _ =>
          dsimp only
          -- the directories above are there: one attempt is left, from the tree that has them
          rcases settle_cases between ⟨slashes, (part :: above).reverse⟩
              (between.makeDirectory ⟨slashes, (part :: above).reverse⟩) with
            ⟨made, hmade, hsettle⟩ | ⟨hsettle, hdone⟩
          · rw [hsettle]
            have hlast := makeDirectory_differsOnly hmade
            refine ⟨?_, fun _ => walk_of_makeDirectory hmade⟩
            exact (hway.mono (fun _ h => h) fun _ h =>
              h.of_keepsDirectories hlast.keepsDirectories).trans hlast
          · rw [hsettle]
            exact ⟨hway, hdone⟩
    · rename_i e _ _
      rcases settle_cases tree ⟨slashes, (part :: above).reverse⟩ (.error e) with
        ⟨made, hmade, -⟩ | ⟨hsettle, hdone⟩
      · cases hmade
      · rw [hsettle]
        exact ⟨DiffersOnly.refl tree, hdone⟩

/-- New directories on the way to the path are all that an attempt to make a directory
    leaves. -/
theorem ensureDirectory_differsOnly (tree : FileTree) (path : Path) :
    DiffersOnly (fun _ => False) (OnTheWay (tree.ensureDirectory path).1 path.parts) tree
      (tree.ensureDirectory path).1 := by
  have hspec := (ensureParts_spec tree path.slashes path.parts.reverse).1
  rwa [List.reverse_reverse] at hspec

theorem walk_of_ensureDirectory {tree : FileTree} {path : Path}
    (hdone : (tree.ensureDirectory path).2 = .ok ()) :
    ∃ place, walk (tree.ensureDirectory path).1 [] path.parts = .ok place ∧
      (tree.ensureDirectory path).1.node? place = some .directory := by
  have hspec := (ensureParts_spec tree path.slashes path.parts.reverse).2 hdone
  rwa [List.reverse_reverse] at hspec

/-- Where there is a directory already, nothing is made. -/
theorem ensureDirectory_eq_self {tree : FileTree} {path : Path} {place : Location}
    (hwalk : walk tree [] path.parts = .ok place)
    (hnode : tree.node? place = some .directory) : (tree.ensureDirectory path).1 = tree := by
  have hmake : ∀ made, tree.makeDirectory path ≠ .ok made := by
    intro made hmade
    obtain ⟨place', hwalk', hnone, -⟩ := makeDirectory_eq_ok hmade
    rw [hwalk] at hwalk'
    rw [← Except.ok.inj hwalk', hnode] at hnone
    cases hnone
  have hfound : tree.makeDirectory path ≠ .error .notFound := by
    intro hmade
    unfold makeDirectory locate locateFrom at hmade
    rw [Path.parts_under_root, hwalk] at hmade
    split at hmade
    · cases hmade
    · split at hmade
      · cases hmade
      · simp only [bind, Except.bind] at hmade
        rw [hnode] at hmade
        cases hmade
  unfold ensureDirectory
  cases hparts : path.parts.reverse with
  | nil => rfl
  | cons part above =>
    have hpath : (⟨path.slashes, (part :: above).reverse⟩ : Path) = path := by
      rw [← hparts, List.reverse_reverse]
    rw [ensureParts, hpath]
    cases hmade : tree.makeDirectory path with
    | ok made => exact absurd hmade (hmake made)
    | error e =>
      have hrest : (ensureParts.settle tree path (.error e)).1 = tree := by
        rcases settle_cases tree path (.error e) with ⟨made, hok, -⟩ | ⟨hsettle, -⟩
        · cases hok
        · exact hsettle
      cases e with
      | notFound => exact absurd hmade hfound
      | _ => exact hrest

end FileTree

end EngineBindings
