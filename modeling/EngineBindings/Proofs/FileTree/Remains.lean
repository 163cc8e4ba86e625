/-
  EngineBindings/Proofs/FileTree/Remains.lean
  ===========================================
  **What writes leave behind.**

  A write may fail at many points: a directory cannot be made, the old text cannot be read, the
  new one cannot be encoded, the prepared file cannot be moved.  Whichever it is, every file is as
  it was, and directories above the path are all that may be new (`write_differsOnly`).

  The prepared file is never seen, after a failure or after a success: its place is empty again
  when the write ends (`node?_prepared_write`).  So after any row of writes the files are those
  that were there before, and those that a write has put at its own path
  (`writeAll_differsOnly`).
-/
import EngineBindings.Proofs.FileTree.Write

namespace EngineBindings.FileTree

/-! ### One write -/

structure WriteCall where
  path : Path
  text : String
  options : WriteOptions := {}

def answer (tree : FileTree) (call : WriteCall) : WriteOutcome :=
  tree.write call.path call.text call.options

theorem withParents_differsOnly (tree : FileTree) (path : Path) (options : WriteOptions) :
    DiffersOnly (fun _ => False) (OnTheWay (tree.withParents path options).1 path.parent.parts)
      tree (tree.withParents path options).1 := by
  unfold withParents
  split
  · exact ensureDirectory_differsOnly tree path.parent
  · exact DiffersOnly.refl tree

theorem keepsDirectories_write (tree : FileTree) (path : Path) (text : String)
    (options : WriteOptions) : KeepsDirectories tree (tree.write path text options).tree := by
  cases hdry : options.dryRun with
  | true =>
    rw [write, if_pos hdry]
    exact KeepsDirectories.refl tree
  | false =>
    have habove := (withParents_differsOnly tree path options).keepsDirectories
    rcases write_cases tree path text hdry with ⟨e, hwrite⟩ | ⟨-, -, hwrite⟩ |
      ⟨-, -, place, bytes, mode, -, hnode, -, -, -, hwrite⟩
    · rw [hwrite]
      exact habove
    · rw [hwrite]
      exact habove
    · rw [hwrite]
      exact habove.trans (keepsDirectories_insert hnode)

/-- A write changes the node at its own path, if it says so, and apart from that it makes
    directories above the path. -/
theorem write_differsOnly (tree : FileTree) (path : Path) (text : String)
    (options : WriteOptions) :
    DiffersOnly
      (fun location => (tree.write path text options).result = .ok true ∧
        (tree.write path text options).tree.locate path = .ok location)
      (OnTheWay (tree.write path text options).tree path.parent.parts) tree
      (tree.write path text options).tree := by
  cases hdry : options.dryRun with
  | true =>
    rw [write, if_pos hdry]
    exact DiffersOnly.refl tree
  | false =>
    have habove := withParents_differsOnly tree path options
    rcases write_cases tree path text hdry with ⟨e, hwrite⟩ | ⟨-, -, hwrite⟩ |
      ⟨-, -, place, bytes, mode, hlocate, hnode, -, -, -, hwrite⟩
    · rw [hwrite]
      exact habove.mono (fun _ h => h.elim) fun _ h => h
    · rw [hwrite]
      exact habove.mono (fun _ h => h.elim) fun _ h => h
    · rw [hwrite]
      have hkeeps : KeepsDirectories (tree.withParents path options).1
          ((tree.withParents path options).1.insert place (.file bytes mode)) :=
        keepsDirectories_insert hnode
      refine (habove.mono (fun _ h => h.elim) fun _ h => h.of_keepsDirectories hkeeps).trans ?_
      intro location hlocation
      have hne : place ≠ location := by
        rintro rfl
        exact hlocation ⟨rfl, locate_of_keepsDirectories hkeeps hlocate⟩
      exact Or.inl (node?_insert_of_ne _ _ hne)

theorem write_differsOnly_of_error {tree : FileTree} {path : Path} {text : String}
    {options : WriteOptions} {e : Error}
    (hfails : (tree.write path text options).result = .error e) :
    DiffersOnly (fun _ => False) (OnTheWay (tree.write path text options).tree path.parent.parts)
      tree (tree.write path text options).tree := by
  refine (write_differsOnly tree path text options).mono ?_ fun _ h => h
  rintro location ⟨hwritten, -⟩
  rw [hfails] at hwritten
  cases hwritten

/-- Where a write has prepared its file, nothing is left. -/
theorem node?_prepared_write {tree : FileTree} {path : Path} {options : WriteOptions}
    (text : String) (hreal : options.dryRun = false) {prepared : Location}
    (hprepared : (tree.withParents path options).1.preparedAt path = .ok prepared) :
    (tree.write path text options).tree.node? prepared = none := by
  have hfree := (preparedAt_eq_ok hprepared).1
  rcases write_cases tree path text hreal with ⟨e, hwrite⟩ | ⟨-, -, hwrite⟩ |
    ⟨-, -, place, bytes, mode, -, -, hapart, -, -, hwrite⟩
  · rw [hwrite]
    exact hfree
  · rw [hwrite]
    exact hfree
  · rw [hwrite]
    have hne := hapart prepared hprepared
    exact (node?_insert_of_ne _ _ hne.symm).trans hfree

/-! ### A row of writes -/

def writeAll (tree : FileTree) : List WriteCall → FileTree
  | [] => tree
  | call :: rest => writeAll (tree.answer call).tree rest

theorem writeAll_append (tree : FileTree) (front back : List WriteCall) :
    tree.writeAll (front ++ back) = (tree.writeAll front).writeAll back := by
  induction front generalizing tree with
  | nil => rfl
  | cons call rest ih => exact ih (tree.answer call).tree

theorem writeAll_concat (tree : FileTree) (front : List WriteCall) (call : WriteCall) :
    tree.writeAll (front ++ [call]) = ((tree.writeAll front).answer call).tree := by
  rw [writeAll_append]
  rfl

/-- A write of a row says that it has written, and its path leads to the place. -/
def PutBy (tree : FileTree) (calls : List WriteCall) (location : Location) : Prop :=
  ∃ front call back, calls = front ++ call :: back ∧
    ((tree.writeAll front).answer call).result = .ok true ∧
    (tree.writeAll calls).locate call.path = .ok location

/-- The place lies on the way to the directory of a path that a row of writes is given. -/
def AboveSome (tree : FileTree) (calls : List WriteCall) (location : Location) : Prop :=
  ∃ call ∈ calls, OnTheWay (tree.writeAll calls) call.path.parent.parts location

/-- After a row of writes nothing is new but what its successful writes have put at their paths,
    and directories. -/
theorem writeAll_differsOnly (tree : FileTree) (calls : List WriteCall) :
    DiffersOnly (tree.PutBy calls) (tree.AboveSome calls) tree (tree.writeAll calls) := by
  -- from the last write: the ones before it have run in the same tree
  induction calls using List.reverseRecOn with
  | nil => exact DiffersOnly.refl tree
  | append_singleton front call ih =>
    have hlast := write_differsOnly (tree.writeAll front) call.path call.text call.options
    have hkeeps := keepsDirectories_write (tree.writeAll front) call.path call.text call.options
    have hafter : tree.writeAll (front ++ [call]) =
        ((tree.writeAll front).write call.path call.text call.options).tree :=
      writeAll_concat tree front call
    rw [← hafter] at hlast hkeeps
    refine DiffersOnly.trans (ih.mono ?_ ?_) (hlast.mono ?_ ?_)
    · rintro location ⟨before, earlier, after, rfl, hwritten, hlocate⟩
      refine ⟨before, earlier, after ++ [call], by simp, hwritten, ?_⟩
      exact locate_of_keepsDirectories hkeeps hlocate
    · rintro location ⟨earlier, hmem, hway⟩
      exact ⟨earlier, List.mem_append_left _ hmem, hway.of_keepsDirectories hkeeps⟩
    · rintro location ⟨hwritten, hlocate⟩
      exact ⟨front, call, [], rfl, hwritten, hlocate⟩
    · intro location hway
      exact ⟨call, List.mem_append_right _ (List.mem_singleton_self call), hway⟩

/-- A write that fails leaves every file with its bytes and permission bits, and may only have
    made directories above its path.  After a row of writes, whichever of them have failed, what
    is new are the files that its writes have put at their paths, and such directories; nothing
    is left where the last of them has prepared its file. -/
theorem failed_write_keeps_files (tree : FileTree) :
    (∀ call e, (tree.answer call).result = .error e →
      (∀ location bytes mode,
        (tree.answer call).tree.node? location = some (.file bytes mode) ↔
          tree.node? location = some (.file bytes mode)) ∧
      DiffersOnly (fun _ => False) (OnTheWay (tree.answer call).tree call.path.parent.parts) tree
        (tree.answer call).tree) ∧
    (∀ calls, DiffersOnly (tree.PutBy calls) (tree.AboveSome calls) tree (tree.writeAll calls)) ∧
    ∀ calls call prepared, call.options.dryRun = false →
      ((tree.writeAll calls).withParents call.path call.options).1.preparedAt call.path =
        .ok prepared →
      (tree.writeAll (calls ++ [call])).node? prepared = none := by
  refine ⟨?_, writeAll_differsOnly tree, ?_⟩
  · intro call e hfails
    have hdiffers := write_differsOnly_of_error hfails
    exact ⟨fun _ => hdiffers.file_iff id, hdiffers⟩
  · intro calls call prepared hreal hprepared
    rw [writeAll_concat]
    exact node?_prepared_write call.text hreal hprepared

def oneFile : FileTree :=
  empty.insert ["a"] (.file "x".toUTF8 defaultMode)

def accented : WriteCall :=
  ⟨⟨1, ["d", "f"]⟩, "é", { encoding := .ascii }⟩

/-- The text is refused when its file is prepared already: the directory stays, and no file. -/
theorem unencodable_write_keeps_files :
    (oneFile.answer accented).result = .error .unencodable ∧
      (oneFile.answer accented).tree.node? ["d"] = some .directory ∧
      (∀ location bytes mode,
        (oneFile.answer accented).tree.node? location = some (.file bytes mode) ↔
          oneFile.node? location = some (.file bytes mode)) ∧
      ∃ prepared,
        (oneFile.withParents accented.path accented.options).1.preparedAt accented.path =
          .ok prepared ∧ (oneFile.writeAll [accented]).node? prepared = none := by
  have hfails : (oneFile.answer accented).result = .error .unencodable := by decide
  have hprepared : (oneFile.withParents accented.path accented.options).1.preparedAt
      accented.path = .ok ["d", ".f.00000000"] := by decide
  obtain ⟨hfailed, -, hgone⟩ := failed_write_keeps_files oneFile
  exact ⟨hfails, by decide, (hfailed accented _ hfails).1, _, hprepared,
    hgone [] accented _ rfl hprepared⟩

end EngineBindings.FileTree
