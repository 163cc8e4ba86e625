/-
  EngineBindings/Proofs/Template/Library.lean
  ===========================================
  **When a template reads the same.**

  A template is looked up anew each time it is filled in, so what is written between two
  fillings may change it.  It reads the same as long as its own place is left alone
  (`source_eq_of_differsOnly`): new directories do not matter, because the name of a template
  never leads out of the directory of templates, and a file is never found on a way that is
  still to be made.
-/
import EngineBindings.Template.Library
import EngineBindings.Proofs.FileTree.Walk

namespace EngineBindings

/-! ### Looking a node up -/

theorem FileTree.lookup_eq_ok_iff {tree : FileTree} {path : Path} {node : Node} :
    tree.lookup path = .ok node ↔
      path.holdsNull = false ∧ path.text.utf8ByteSize ≤ maxPathBytes ∧
        ∃ place, tree.walk [] path.parts = .ok place ∧ tree.node? place = some node := by
  unfold lookup lookupFrom locateFrom
  rw [Path.parts_under_root]
  simp only [bind, Except.bind]
  constructor
  · intro hlookup
    split at hlookup
    · cases hlookup
    · rename_i place hlocate
      split at hlocate
      · cases hlocate
      · rename_i hnull
        split at hlocate
        · cases hlocate
        · rename_i hlong
          refine ⟨by simpa using hnull, Nat.le_of_not_lt hlong, place, hlocate, ?_⟩
          split at hlookup
          · rename_i hnode
            rw [hnode, Except.ok.inj hlookup]
          · cases hlookup
  · rintro ⟨hnull, hlong, place, hwalk, hnode⟩
    rw [if_neg (by simp [hnull]), if_neg (Nat.not_lt.mpr hlong), hwalk]
    dsimp only
    rw [hnode]
    rfl

namespace Template.Library

/-- The place of a template is not among some places: there is no directory of the user, or it
    is there and the name of the template leads to another place in it. -/
def Apart (library : Library) (tree : FileTree) (touched : Location → Prop) (name : String) :
    Prop :=
  ∀ directory, library.directory = some directory →
    ∃ here, tree.walk [] directory.parts = .ok here ∧ ¬ touched (here ++ Path.partsOf name)

theorem userFile?_eq_some_iff {library : Library} {tree : FileTree} {parts : List String}
    {bytes : ByteArray} :
    library.userFile? tree parts = some bytes ↔
      ∃ directory mode, library.directory = some directory ∧
        tree.lookup ⟨directory.slashes, directory.parts ++ parts⟩ = .ok (.file bytes mode) := by
  unfold userFile?
  cases library.directory with
  | none => simp
  | some directory =>
    rw [Option.bind_some]
    split
    · rename_i bytes' mode hlookup
      simp [hlookup]
    · rename_i hother
      constructor
      · nofun
      · rintro ⟨_, mode, hdirectory, hlookup⟩
        cases hdirectory
        exact absurd hlookup (hother bytes mode)

variable {library : Library} {before after : FileTree} {touched made : Location → Prop}

/-- A file of the user that can be read in one tree can be read in another that differs from it
    in other places and in directories. -/
theorem userFile?_eq_of_differsOnly (hrooted : before.Rooted)
    (hkeeps : FileTree.KeepsDirectories before after)
    (hdiffers : FileTree.DiffersOnly touched made before after) {name : String}
    (hstraight : ".." ∉ Path.partsOf name) (hapart : library.Apart before touched name) :
    library.userFile? after (Path.partsOf name) =
      library.userFile? before (Path.partsOf name) := by
  refine Option.ext fun bytes => ?_
  rw [userFile?_eq_some_iff, userFile?_eq_some_iff]
  refine exists_congr fun directory => exists_congr fun mode => and_congr_right fun hdirectory => ?_
  obtain ⟨here, hhere, hplace⟩ := hapart directory hdirectory
  have hhere' := FileTree.walk_of_keepsDirectories hkeeps hhere
  rw [FileTree.lookup_eq_ok_iff, FileTree.lookup_eq_ok_iff]
  refine and_congr_right fun _ => and_congr_right fun _ => exists_congr fun place => ?_
  rw [FileTree.walk_append, FileTree.walk_append, hhere, hhere']
  change FileTree.walk after here _ = _ ∧ _ ↔ FileTree.walk before here _ = _ ∧ _
  constructor
  · rintro ⟨hwalk, hnode⟩
    rw [← FileTree.walk_straight hstraight hwalk] at hplace
    rcases hdiffers place hplace with hsame | ⟨-, hnew, -⟩
    · rw [hsame] at hnode
      exact ⟨FileTree.walk_of_rooted hrooted hstraight hwalk (by rw [hnode]; nofun), hnode⟩
    · rw [hnode] at hnew
      cases hnew
  · rintro ⟨hwalk, hnode⟩
    refine ⟨FileTree.walk_of_keepsDirectories hkeeps hwalk, ?_⟩
    rw [← FileTree.walk_straight hstraight hwalk] at hplace
    rcases hdiffers place hplace with hsame | ⟨hnone, -, -⟩
    · exact hsame.trans hnode
    · rw [hnode] at hnone
      cases hnone

/-- The text of a template whose place is left alone. -/
theorem source_eq_of_differsOnly (hrooted : before.Rooted)
    (hkeeps : FileTree.KeepsDirectories before after)
    (hdiffers : FileTree.DiffersOnly touched made before after) {name : String}
    (hapart : library.Apart before touched name) :
    library.source after name = library.source before name := by
  unfold source
  dsimp only
  split
  · rfl
  · rename_i hstraight
    rw [userFile?_eq_of_differsOnly hrooted hkeeps hdiffers hstraight hapart]

/-- Without a directory of the user the templates are those of the package, whatever is in the
    tree. -/
theorem source_of_no_directory (hnone : library.directory = none) (first second : FileTree)
    (name : String) : library.source first name = library.source second name := by
  unfold source userFile?
  simp only [hnone, Option.bind_none]

theorem render_congr {name : String}
    (hsource : library.source after name = library.source before name)
    (context : List (String × Json)) :
    library.render after name context = library.render before name context := by
  unfold render
  rw [hsource]

end Template.Library

end EngineBindings
