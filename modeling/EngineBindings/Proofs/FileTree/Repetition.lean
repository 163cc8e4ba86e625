/-
  EngineBindings/Proofs/FileTree/Repetition.lean
  ==============================================
  **Doing again what was done.**

  Making a directory that was made does nothing, in every tree that has kept its directories
  (`ensureDirectory_again`).  Writing a text to a file that holds it does nothing either, and the
  write says so (`write_of_holdsIn`): what is read back is what was written, line endings
  apart, whoever wrote it.
-/
import EngineBindings.Proofs.FileTree.Write

namespace EngineBindings.FileTree

variable {tree before after : FileTree} {path : Path}

/-! ### Directories -/

theorem isDirectory_eq_true_iff :
    tree.isDirectory path = .ok true ↔
      ∃ place, tree.locate path = .ok place ∧ tree.node? place = some .directory := by
  unfold isDirectory lookup lookupFrom locate
  cases hlocate : tree.locateFrom .root path with
  | error e =>
    simp only [bind, Except.bind]
    cases e <;> simp
  | ok place =>
    simp only [bind, Except.bind, Except.ok.injEq, exists_eq_left']
    cases hnode : tree.node? place with
    | none => simp [throw, throwThe, MonadExceptOf.throw]
    | some node => cases node <;> simp [pure, Except.pure]

/-- A directory that is there is settled with as it is. -/
theorem ensureDirectory_of_isDirectory (hdirectory : tree.isDirectory path = .ok true) :
    tree.ensureDirectory path = (tree, .ok ()) := by
  obtain ⟨place, hlocate, hnode⟩ := isDirectory_eq_true_iff.mp hdirectory
  have hmake : tree.makeDirectory path = .error .exists := by
    unfold makeDirectory
    rw [hlocate]
    simp only [bind, Except.bind]
    rw [hnode]
    rfl
  unfold ensureDirectory
  cases hparts : path.parts.reverse with
  | nil => rfl
  | cons part above =>
    have hpath : (⟨path.slashes, (part :: above).reverse⟩ : Path) = path := by
      rw [← hparts, List.reverse_reverse]
    rw [ensureParts, hpath, hmake]
    simp only [ensureParts.settle, hdirectory]

def unchangedRecord (path : Path) : Log.Record :=
  Log.debug Log.filesLogger ("[skip] " ++ path.text ++ " (unchanged)")

/-- At a place stands a file whose text in an encoding is the given one, line endings apart. -/
def HoldsIn (tree : FileTree) (encoding : Encoding) (place : Location) (text : String) : Prop :=
  ∃ bytes mode held, tree.node? place = some (.file bytes mode) ∧
    encoding.decode? bytes = some held ∧ Text.unixNewlines held = Text.unixNewlines text

theorem HoldsIn.holdsText_eq {encoding : Encoding} {place : Location} {text : String}
    (hholds : tree.HoldsIn encoding place text) (hlocate : tree.locate path = .ok place) :
    tree.holdsText path encoding (Text.unixNewlines text) = .ok true := by
  obtain ⟨bytes, mode, held, hnode, hdecode, hsame⟩ := hholds
  have hread : tree.readBytes path = .ok bytes := by
    change tree.locateFrom .root path = .ok place at hlocate
    unfold readBytes readBytesFrom lookupFrom
    rw [hlocate]
    simp only [bind, Except.bind]
    rw [hnode]
    rfl
  unfold holdsText readText?
  rw [hread]
  dsimp only
  rw [hdecode]
  simp [Except.map, hsame]

theorem HoldsIn.isCurrent_eq {place : Location} {text : String} {options : WriteOptions}
    (hholds : tree.HoldsIn options.encoding place text) (hlocate : tree.locate path = .ok place)
    (hskip : options.skipUnchanged = true) :
    tree.isCurrent path (Text.unixNewlines text) options = .ok true := by
  rw [isCurrent, if_pos hskip]
  exact hholds.holdsText_eq hlocate

/-- A file that holds a text already is left alone by a write of the text. -/
theorem write_of_holdsIn {place : Location} {text : String} {options : WriteOptions}
    (hreal : options.dryRun = false) (hskip : options.skipUnchanged = true)
    (hparents : tree.ensureDirectory path.parent = (tree, .ok ()))
    (hlocate : tree.locate path = .ok place)
    (hholds : tree.HoldsIn options.encoding place text) :
    tree.write path text options = ⟨tree, writeLog options (unchangedRecord path), .ok false⟩ := by
  have habove : tree.withParents path options = (tree, .ok ()) := by
    unfold withParents
    rw [hparents]
    split <;> rfl
  unfold write
  rw [if_neg (by simp [hreal]), habove]
  dsimp only
  rw [hholds.isCurrent_eq hlocate hskip]
  rfl

end EngineBindings.FileTree
