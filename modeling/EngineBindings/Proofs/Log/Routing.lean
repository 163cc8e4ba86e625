/-
  EngineBindings/Proofs/Log/Routing.lean
  ======================================
  **What setting up the log may change.**

  A log that is set up empties its file and touches nothing else, whether or not the setup
  succeeds (`node?_configure`).  All handlers of before are gone, so the only place that lines
  are added to from then on is that of the file, unless the setup names a place for its stream
  (`logsTo_configure`).
-/
import EngineBindings.Proofs.Session

namespace EngineBindings

/-! ### An emptied file -/

theorem FileTree.truncateFile_eq_ok {tree emptied : FileTree} {path : Path} {location : Location}
    (hempty : tree.truncateFile path = .ok (emptied, location)) :
    tree.locate path = .ok location ∧
      ∃ mode, emptied = tree.insert location (.file .empty mode) := by
  unfold truncateFile at hempty
  cases hlocate : tree.locate path with
  | error e =>
    rw [hlocate] at hempty
    cases hempty
  | ok place =>
    rw [hlocate] at hempty
    simp only [bind, Except.bind] at hempty
    split at hempty
    · cases hempty
    · cases hempty
      exact ⟨rfl, _, rfl⟩
    · cases hempty
      exact ⟨rfl, _, rfl⟩

theorem FileTree.node?_of_truncateFile {tree emptied : FileTree} {path : Path}
    {location : Location} (hempty : tree.truncateFile path = .ok (emptied, location)) :
    ∃ mode, emptied.node? location = some (.file .empty mode) := by
  obtain ⟨hlocate, mode, rfl⟩ := truncateFile_eq_ok hempty
  refine ⟨mode, node?_insert_self tree _ ?_⟩
  rintro rfl
  have hroot : tree.node? [] = some .directory := rfl
  simp [truncateFile, hlocate, hroot, bind, Except.bind, throw, throwThe, MonadExceptOf.throw]
    at hempty

/-! ### The log file of a setup -/

namespace Log

def Setup.FileAt (setup : Setup) (tree : FileTree) (directory : Path) (location : Location) :
    Prop :=
  setup.file ≠ "" ∧ tree.locate (directory.resolve (.ofText setup.file)) = .ok location

variable {setup : Setup} {tree opened : FileTree} {directory : Path} {files : List Target}

theorem openFile_eq_ok (hopen : setup.openFile tree directory = .ok (opened, files)) :
    (opened = tree ∧ files = []) ∨
      ∃ location mode, setup.FileAt tree directory location ∧ files = [.file location] ∧
        opened = tree.insert location (.file .empty mode) := by
  unfold Setup.openFile at hopen
  by_cases hnone : setup.file = ""
  · rw [if_pos hnone] at hopen
    cases hopen
    exact Or.inl ⟨rfl, rfl⟩
  · rw [if_neg hnone] at hopen
    right
    cases htruncate : tree.truncateFile (directory.resolve (.ofText setup.file)) with
    | error e =>
      rw [htruncate] at hopen
      cases hopen
    | ok emptied =>
      obtain ⟨emptied, location⟩ := emptied
      rw [htruncate] at hopen
      cases hopen
      obtain ⟨hlocate, mode, rfl⟩ := FileTree.truncateFile_eq_ok htruncate
      exact ⟨location, mode, ⟨hnone, hlocate⟩, rfl, rfl⟩

/-- A setup keeps the tree and shows nothing, or it opens its file and shows records there and on
    its stream. -/
theorem configure_cases (routing : Routing) (tree : FileTree) (directory : Path)
    (setup : Setup) :
    ((routing.configure tree directory setup).2.1 = tree ∧
        (routing.configure tree directory setup).1.handlers = []) ∨
      ∃ opened files, setup.openFile tree directory = .ok (opened, files) ∧
        (routing.configure tree directory setup).2.1 = opened ∧
        ∀ handler ∈ (routing.configure tree directory setup).1.handlers,
          handler.target ∈ setup.stream :: files := by
  unfold Routing.configure
  dsimp only
  split
  · exact Or.inl ⟨rfl, rfl⟩
  · split
    · exact Or.inl ⟨rfl, rfl⟩
    · split
      · exact Or.inl ⟨rfl, rfl⟩
      · rename_i opened files hopen
        refine Or.inr ⟨opened, files, hopen, rfl, ?_⟩
        intro handler hhandler
        obtain ⟨target, htarget, rfl⟩ := List.mem_map.mp hhandler
        exact htarget

end Log

/-! ### Sessions with a new log -/

namespace Session

/-- A log that is set up touches its file and nothing else. -/
theorem node?_configure (session : Session) (setup : Log.Setup) {location : Location}
    (hapart : ¬ setup.FileAt session.tree session.directory location) :
    (session.configure setup).1.tree.node? location = session.tree.node? location := by
  change (session.routing.configure session.tree session.directory setup).2.1.node? location = _
  rcases Log.configure_cases session.routing session.tree session.directory setup with
    ⟨hsame, -⟩ | ⟨opened, files, hopen, htree, -⟩
  · rw [hsame]
  · rw [htree]
    rcases Log.openFile_eq_ok hopen with ⟨rfl, -⟩ | ⟨place, mode, hplace, -, rfl⟩
    · rfl
    · have hne : place ≠ location := by
        intro heq
        exact hapart (heq ▸ hplace)
      exact FileTree.node?_insert_of_ne session.tree _ hne

/-- After a setup, lines go to the file of the setup and to its stream. -/
theorem logsTo_configure {session : Session} {setup : Log.Setup} {location : Location}
    (hlogs : (session.configure setup).1.LogsTo location) :
    setup.FileAt session.tree session.directory location ∨ setup.stream = .file location := by
  obtain ⟨handler, hhandler, htarget⟩ := hlogs
  change handler ∈ (session.routing.configure session.tree session.directory setup).1.handlers
    at hhandler
  rcases Log.configure_cases session.routing session.tree session.directory setup with
    ⟨-, hnone⟩ | ⟨opened, files, hopen, -, htargets⟩
  · rw [hnone] at hhandler
    cases hhandler
  · have hmem := htargets handler hhandler
    rw [htarget] at hmem
    rcases List.mem_cons.mp hmem with hstream | hfile
    · exact Or.inr hstream.symm
    · left
      rcases Log.openFile_eq_ok hopen with ⟨-, rfl⟩ | ⟨place, mode, hplace, rfl, -⟩
      · cases hfile
      · cases List.mem_singleton.mp hfile
        exact hplace

end Session

end EngineBindings
