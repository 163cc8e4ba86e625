/-
  EngineBindings/Proofs/FileTree/Effect.lean
  ==========================================
  **What a write that returns has done.**

  A write that returns leads to one place, and it says whether it has written there: it has not
  exactly when the file of the place held the text already, line endings apart
  (`effect_of_write`).  Whichever it was, the place holds the text afterwards
  (`Placed.holdsIn`), so the same write again finds nothing to do.

  The directories of the path have to be there for this: a path that leads somewhere leads
  through them, so they are not made a second time (`ensureDirectory_parent`).
-/
import EngineBindings.Proofs.FileTree.Remains
import EngineBindings.Proofs.FileTree.Repetition

namespace EngineBindings

/-! ### The directory of a path -/

namespace Path

theorem parts_eq_concat {path : Path} (hparent : path.parent.parts ≠ []) :
    ∃ name, path.parts = path.parent.parts ++ [name] := by
  rcases List.eq_nil_or_concat path.parts with hnil | ⟨front, name, hparts⟩
  · exact absurd (by simp [parent, hnil]) hparent
  · refine ⟨name, ?_⟩
    rw [parent, hparts]
    simp

theorem holdsNull_parent {path : Path} (hplain : path.holdsNull = false) :
    path.parent.holdsNull = false := by
  unfold holdsNull at hplain ⊢
  rw [List.any_eq_false] at hplain ⊢
  intro part hpart
  exact hplain part ((List.dropLast_subset _) hpart)

/-- The text of the directory is no longer than the text of the path. -/
theorem utf8ByteSize_text_parent {path : Path} (hparent : path.parent.parts ≠ []) :
    path.parent.text.utf8ByteSize ≤ path.text.utf8ByteSize := by
  obtain ⟨name, hparts⟩ := parts_eq_concat hparent
  have hfront : ¬ (path.parent.slashes = 0 ∧ path.parent.parts = []) := fun h => hparent h.2
  have hwhole : ¬ (path.slashes = 0 ∧ path.parts = []) := by
    simp [hparts]
  have htext : path.text = path.parent.text ++ "/" ++ name := by
    unfold text
    rw [if_neg hfront, if_neg hwhole, hparts,
      String.intercalate_append_of_ne_nil hparent (List.cons_ne_nil _ _),
      String.intercalate_singleton]
    simp only [String.append_assoc]
    rfl
  rw [htext, String.utf8ByteSize_append, String.utf8ByteSize_append]
  omega

end Path

namespace FileTree

variable {tree : FileTree} {path : Path} {place : Location}

/-- A path of several names that leads somewhere leads through the directory of the path. -/
theorem locate_parent (hlocate : tree.locate path = .ok place)
    (hparent : path.parent.parts ≠ []) :
    ∃ here, tree.locate path.parent = .ok here ∧ tree.node? here = some .directory := by
  obtain ⟨name, hparts⟩ := Path.parts_eq_concat hparent
  have hwalk := walk_of_locate hlocate
  rw [hparts, walk_append] at hwalk
  cases hfront : walk tree [] path.parent.parts with
  | error e =>
    rw [hfront] at hwalk
    cases hwalk
  | ok here =>
    rw [hfront] at hwalk
    change walk tree here [name] = .ok place at hwalk
    refine ⟨here, ?_, ?_⟩
    · unfold locate locateFrom at hlocate ⊢
      split at hlocate
      · cases hlocate
      · rename_i hplain
        split at hlocate
        · cases hlocate
        · rename_i hshort
          have hsize := Path.utf8ByteSize_text_parent hparent
          rw [Path.parts_under_root, hfront,
            if_neg (by simpa using Path.holdsNull_parent (by simpa using hplain)),
            if_neg (by omega)]
    · simp only [walk] at hwalk
      split at hwalk
      · assumption
      · cases hwalk
      · cases hwalk

/-- Where a path leads somewhere, its directory is not made again. -/
theorem ensureDirectory_parent (hlocate : tree.locate path = .ok place) :
    tree.ensureDirectory path.parent = (tree, .ok ()) := by
  by_cases hparent : path.parent.parts = []
  · rw [ensureDirectory, hparent]
    rfl
  · obtain ⟨here, hfront, hnode⟩ := locate_parent hlocate hparent
    exact ensureDirectory_of_isDirectory (isDirectory_eq_true_iff.mpr ⟨here, hfront, hnode⟩)

/-! ### Texts in files -/

theorem HoldsIn.congr {encoding : Encoding} {text text' : String}
    (hsame : Text.unixNewlines text' = Text.unixNewlines text)
    (hholds : tree.HoldsIn encoding place text) : tree.HoldsIn encoding place text' := by
  obtain ⟨bytes, mode, held, hnode, hdecode, hheld⟩ := hholds
  exact ⟨bytes, mode, held, hnode, hdecode, hheld.trans hsame.symm⟩

/-- New directories do not matter to what a file holds. -/
theorem DiffersOnly.holdsIn_iff {made : Location → Prop} {before after : FileTree}
    (hdiffers : DiffersOnly (fun _ => False) made before after) {encoding : Encoding}
    {text : String} :
    after.HoldsIn encoding place text ↔ before.HoldsIn encoding place text := by
  unfold HoldsIn
  simp only [hdiffers.file_iff id]

theorem holdsIn_of_isCurrent {text : String} {options : WriteOptions}
    (hcurrent : tree.isCurrent path (Text.unixNewlines text) options = .ok true) :
    ∃ place, tree.locate path = .ok place ∧ tree.HoldsIn options.encoding place text := by
  unfold isCurrent at hcurrent
  split at hcurrent
  · obtain ⟨place, bytes, mode, held, hlocate, hnode, hdecode, hheld⟩ :=
      holdsText_eq_true hcurrent
    exact ⟨place, hlocate, bytes, mode, held, hnode, hdecode, hheld⟩
  · cases hcurrent

/-! ### Permission bits -/

/-- A file that is made with a number gets the last twelve bits of the number. -/
theorem mode_of_modeFor {options : WriteOptions} {bits : Nat} {mode : Int}
    (hbits : modeFor options = .ok bits) (hmode : options.mode = some mode) :
    (bits : Int) = mode % 0o10000 := by
  unfold modeFor permissionBits at hbits
  rw [hmode] at hbits
  dsimp only at hbits
  split at hbits
  · rw [← Except.ok.inj hbits]
    exact Int.toNat_of_nonneg (Int.emod_nonneg mode (by decide))
  · cases hbits

/-! ### Writes that return -/

section

variable {text : String} {options : WriteOptions} {written : Bool}

/-- The file at a place has the bytes of a text, and the permission bits that were asked for. -/
def Placed (tree : FileTree) (place : Location) (text : String) (options : WriteOptions) : Prop :=
  ∃ bytes bits, options.encoding.encode? (Text.unixNewlines text) = some bytes ∧
    tree.node? place = some (.file bytes bits) ∧
    ∀ mode, options.mode = some mode → (bits : Int) = mode % 0o10000

/-- The two ends of a write that returns: the text was there, in a file that is left alone, or it
    was not, and a file with the text was put at the place of the path. -/
theorem write_eq_ok (hreal : options.dryRun = false) (hskip : options.skipUnchanged = true)
    (hok : (tree.write path text options).result = .ok written) :
    ∃ place, (tree.write path text options).tree.locate path = .ok place ∧
      ((written = false ∧ tree.HoldsIn options.encoding place text ∧
          DiffersOnly (fun _ => False)
            (OnTheWay (tree.write path text options).tree path.parent.parts) tree
            (tree.write path text options).tree) ∨
        (written = true ∧ ¬ tree.HoldsIn options.encoding place text ∧
          (tree.write path text options).tree.Placed place text options)) := by
  have habove := withParents_differsOnly tree path options
  rcases write_cases tree path text hreal with ⟨e, hwrite⟩ | ⟨-, hcurrent, hwrite⟩ |
    ⟨-, hcurrent, place, bytes, mode, hlocate, hnode, -, hencode, hmode, hwrite⟩
  · rw [hwrite] at hok
    cases hok
  · rw [hwrite] at hok ⊢
    obtain ⟨place, hlocate, hholds⟩ := holdsIn_of_isCurrent hcurrent
    exact ⟨place, hlocate,
      Or.inl ⟨(Except.ok.inj hok).symm, habove.holdsIn_iff.mp hholds, habove⟩⟩
  · rw [hwrite] at hok ⊢
    have hbelow : place ≠ [] := by
      rintro rfl
      exact hnode (by simp [node?])
    refine ⟨place, locate_of_keepsDirectories (keepsDirectories_insert hnode) hlocate,
      Or.inr ⟨(Except.ok.inj hok).symm, ?_, ?_⟩⟩
    · intro hholds
      rw [(habove.holdsIn_iff.mpr hholds).isCurrent_eq hlocate hskip] at hcurrent
      cases hcurrent
    · exact ⟨bytes, mode, hencode, node?_insert_self _ _ hbelow, fun number hnumber =>
        mode_of_modeFor hmode hnumber⟩

theorem Placed.holdsIn (hplaced : tree.Placed place text options) :
    tree.HoldsIn options.encoding place text := by
  obtain ⟨bytes, bits, hencode, hnode, -⟩ := hplaced
  exact ⟨bytes, bits, Text.unixNewlines text, hnode, Encoding.decode?_encode? hencode,
    Text.unixNewlines_unixNewlines text⟩

/-- How the tree after a write that returned differs from the one before, seen from the place
    that the path leads to. -/
structure Effect (before after : FileTree) (path : Path) (text : String) (options : WriteOptions)
    (written : Bool) (place : Location) : Prop where
  /-- The path leads to the place, and led nowhere else before. -/
  leads : after.locate path = .ok place ∧
    ∀ earlier, before.locate path = .ok earlier → earlier = place
  /-- Nothing was written exactly when a file held the text, line endings apart. -/
  skipped_iff : written = false ↔ before.HoldsIn options.encoding place text
  /-- Then all files are as they were. -/
  skipped : written = false → ∀ location bytes mode,
    after.node? location = some (.file bytes mode) ↔
      before.node? location = some (.file bytes mode)
  /-- Otherwise the file has the bytes of the text. -/
  placed : written = true → after.Placed place text options
  /-- Apart from the file, only directories above the path may be new. -/
  others : DiffersOnly (· = place) (OnTheWay after path.parent.parts) before after
  /-- A write of the same text, line endings apart, has nothing left to do. -/
  again : ∀ text' options', Text.unixNewlines text' = Text.unixNewlines text →
    options'.encoding = options.encoding → options'.skipUnchanged = true →
    options'.dryRun = false →
    (after.write path text' options').tree = after ∧
      (after.write path text' options').result = .ok false

/-- A write that may leave a file alone, if it returns, says by its answer whether the file held
    the text, and the text is in the file in the end. -/
theorem effect_of_write (tree : FileTree) (path : Path) (text : String) (options : WriteOptions)
    (written : Bool) (hreal : options.dryRun = false) (hskip : options.skipUnchanged = true)
    (hok : (tree.write path text options).result = .ok written) :
    ∃ place,
      Effect tree (tree.write path text options).tree path text options written place := by
  obtain ⟨place, hlocate, hends⟩ := write_eq_ok hreal hskip hok
  have hkeeps := keepsDirectories_write tree path text options
  have hholds : (tree.write path text options).tree.HoldsIn options.encoding place text := by
    rcases hends with ⟨-, hbefore, hdiffers⟩ | ⟨-, -, hplaced⟩
    · exact hdiffers.holdsIn_iff.mpr hbefore
    · exact hplaced.holdsIn
  refine ⟨place, ⟨hlocate, ?_⟩, ?_, ?_, ?_, ?_, ?_⟩
  · intro earlier hearlier
    have hsame := locate_of_keepsDirectories hkeeps hearlier
    rw [hlocate] at hsame
    exact (Except.ok.inj hsame).symm
  · rcases hends with ⟨hfalse, hbefore, -⟩ | ⟨htrue, hother, -⟩
    · exact iff_of_true hfalse hbefore
    · exact iff_of_false (by simp [htrue]) hother
  · rcases hends with ⟨-, -, hdiffers⟩ | ⟨htrue, -, -⟩
    · exact fun _ _ => hdiffers.file_iff id
    · simp [htrue]
  · rcases hends with ⟨hfalse, -, -⟩ | ⟨-, -, hplaced⟩
    · simp [hfalse]
    · exact fun _ => hplaced
  · refine (write_differsOnly tree path text options).mono ?_ fun _ h => h
    rintro location ⟨-, hlocation⟩
    rw [hlocate] at hlocation
    exact (Except.ok.inj hlocation).symm
  · intro text' options' hsame hencoding hskip' hreal'
    have hheld := hholds.congr hsame
    rw [← hencoding] at hheld
    rw [write_of_holdsIn hreal' hskip' (ensureDirectory_parent hlocate) hlocate hheld]
    exact ⟨rfl, rfl⟩

end

/-! ### A file in Latin-1 -/

def latinTree : FileTree :=
  (empty.insert ["d"] .directory).insert ["d", "f"] (.file ⟨#[0xe9, 13, 10]⟩ 0o600)

/-- The file is left alone by a write of its text with unix line endings, and a file beside it
    gets the bytes and permission bits of a write, along with its directory. -/
theorem effect_of_latin_writes :
    (∃ place, Effect latinTree
      (latinTree.write ⟨1, ["d", "f"]⟩ "é\n" { encoding := .latin1 }).tree
      ⟨1, ["d", "f"]⟩ "é\n" { encoding := .latin1 } false place) ∧
    ∃ place, Effect latinTree
      (latinTree.write ⟨1, ["e", "f"]⟩ "é\r" { encoding := .latin1, mode := some 0o640 }).tree
      ⟨1, ["e", "f"]⟩ "é\r" { encoding := .latin1, mode := some 0o640 } true place :=
  ⟨effect_of_write latinTree ⟨1, ["d", "f"]⟩ "é\n" { encoding := .latin1 } false rfl rfl
      (by decide),
    effect_of_write latinTree ⟨1, ["e", "f"]⟩ "é\r" { encoding := .latin1, mode := some 0o640 }
      true rfl rfl (by decide)⟩

end FileTree

end EngineBindings
