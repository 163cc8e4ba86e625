/-
  EngineBindings/Proofs/Session.lean
  ==================================
  **What telling a record may change.**

  A record that is told is written to the log files and to nothing else: every other node is
  the one that was there before (`node?_tell`), a directory stays a directory whatever is told,
  and no place becomes a log file that was none (`follows_tell`).

  So a session that comes out of another one by telling records and putting trees in its place
  can be compared with the first by its nodes away from the log files (`Follows`).
-/
import EngineBindings.Session
import EngineBindings.Proofs.FileTree.Walk

namespace EngineBindings

/-! ### Bytes added to a file -/

namespace FileTree

theorem node?_appendBytes_of_ne (tree : FileTree) {location other : Location}
    (bytes : ByteArray) (h : location ≠ other) :
    (tree.appendBytes location bytes).node? other = tree.node? other := by
  unfold appendBytes
  split
  · exact node?_insert_of_ne tree _ h
  · rfl

theorem keepsDirectories_appendBytes (tree : FileTree) (location : Location)
    (bytes : ByteArray) : KeepsDirectories tree (tree.appendBytes location bytes) := by
  intro other hother
  by_cases h : location = other
  · subst h
    rwa [appendBytes, hother]
  · rwa [node?_appendBytes_of_ne tree bytes h]

end FileTree

/-! ### Lines written to log files -/

namespace Log

theorem keepsDirectories_appendLines (tree : FileTree) (lines : List (Target × String)) :
    FileTree.KeepsDirectories tree (appendLines tree lines) := by
  unfold appendLines
  induction lines generalizing tree with
  | nil => exact FileTree.KeepsDirectories.refl tree
  | cons line rest ih =>
    obtain ⟨target, text⟩ := line
    rw [List.foldl_cons]
    cases target with
    | stream number => exact ih tree
    | file location =>
      exact (FileTree.keepsDirectories_appendBytes tree location text.toUTF8).trans (ih _)

theorem node?_appendLines (tree : FileTree) {lines : List (Target × String)}
    {location : Location} (hapart : ∀ line ∈ lines, line.1 ≠ .file location) :
    (appendLines tree lines).node? location = tree.node? location := by
  unfold appendLines
  induction lines generalizing tree with
  | nil => rfl
  | cons line rest ih =>
    obtain ⟨target, text⟩ := line
    have hrest : ∀ line ∈ rest, line.1 ≠ .file location :=
      fun line hline => hapart line (List.mem_cons_of_mem _ hline)
    rw [List.foldl_cons]
    cases target with
    | stream number => exact ih tree hrest
    | file place =>
      have hne : place ≠ location := fun h => hapart _ List.mem_cons_self (by rw [h])
      exact (ih _ hrest).trans (FileTree.node?_appendBytes_of_ne tree _ hne)

theorem target_of_mem_deliverAll {routing : Routing} {describe : Failure → String}
    {records : List Record} {line : Target × String}
    (hline : line ∈ routing.deliverAll describe records) :
    line.1 = standardError ∨ ∃ handler ∈ routing.handlers, handler.target = line.1 := by
  obtain ⟨record, -, hdeliver⟩ := List.mem_flatMap.mp hline
  unfold Routing.deliver at hdeliver
  split at hdeliver
  · obtain ⟨handler, hhandler, hgiven⟩ := List.mem_filterMap.mp hdeliver
    have htarget : handler.target = line.1 := by
      split at hgiven
      · obtain ⟨text, -, rfl⟩ := Option.map_eq_some_iff.mp hgiven
        rfl
      · cases hgiven
    unfold Routing.handlersOf at hhandler
    split at hhandler
    · rw [List.mem_singleton.mp hhandler] at htarget
      exact Or.inl htarget.symm
    · exact Or.inr ⟨handler, hhandler, htarget⟩
  · cases hdeliver

end Log

namespace Session

/-! ### Telling -/

def LogsTo (session : Session) (location : Location) : Prop :=
  ∃ handler ∈ session.routing.handlers, handler.target = .file location

@[simp] theorem told_tell (session : Session) (records : List Log.Record) :
    (session.tell records).told = session.told ++ records := rfl

@[simp] theorem told_withTree (session : Session) (tree : FileTree) :
    (session.withTree tree).told = session.told := rfl

theorem logsTo_tell {session : Session} {records : List Log.Record} {location : Location} :
    (session.tell records).LogsTo location ↔ session.LogsTo location := Iff.rfl

theorem tell_nil (session : Session) : session.tell [] = session := by
  simp [tell, Log.Routing.deliverAll, Log.appendLines]

theorem tell_tell (session : Session) (first second : List Log.Record) :
    (session.tell first).tell second = session.tell (first ++ second) := by
  simp [tell, Log.Routing.deliverAll, Log.appendLines, List.append_assoc]

/-- A log file may be given up for another tree, and none is new. -/
theorem LogsTo.of_withTree {session : Session} {tree : FileTree} {location : Location}
    (hlogs : (session.withTree tree).LogsTo location) : session.LogsTo location := by
  obtain ⟨handler, hhandler, htarget⟩ := hlogs
  exact ⟨handler, (List.mem_filter.mp hhandler).1, htarget⟩

/-- The files that are there already put no log file out of its place. -/
theorem withTree_self (session : Session) : session.withTree session.tree = session := by
  unfold withTree
  dsimp only
  rw [List.filter_eq_self.mpr]
  intro handler _
  cases handler.target <;> simp

theorem keepsDirectories_tell (session : Session) (records : List Log.Record) :
    FileTree.KeepsDirectories session.tree (session.tell records).tree :=
  Log.keepsDirectories_appendLines _ _

/-- Records leave everything but the log files as it is. -/
theorem node?_tell {session : Session} (records : List Log.Record) {location : Location}
    (hapart : ¬ session.LogsTo location) :
    (session.tell records).tree.node? location = session.tree.node? location := by
  refine Log.node?_appendLines session.tree fun line hline htarget => ?_
  rcases Log.target_of_mem_deliverAll hline with herror | ⟨handler, hhandler, hhandled⟩
  · rw [htarget] at herror
    cases herror
  · exact hapart ⟨handler, hhandler, hhandled.trans htarget⟩

/-! ### Sessions that follow one another -/

/-- What the second session has kept of the first: its directories, and every node that is
    neither a log file nor among the places that may have been touched.  No log file is new. -/
structure Follows (touched : Location → Prop) (before after : Session) : Prop where
  keeps : FileTree.KeepsDirectories before.tree after.tree
  logsTo : ∀ location, after.LogsTo location → before.LogsTo location
  node : ∀ location, ¬ touched location → ¬ before.LogsTo location →
    after.tree.node? location = before.tree.node? location

namespace Follows

variable {touched touched' : Location → Prop} {first second third : Session}

theorem refl (session : Session) : Follows touched session session :=
  ⟨FileTree.KeepsDirectories.refl _, fun _ h => h, fun _ _ _ => rfl⟩

theorem trans (hfirst : Follows touched first second) (hsecond : Follows touched second third) :
    Follows touched first third where
  keeps := hfirst.keeps.trans hsecond.keeps
  logsTo location hlogs := hfirst.logsTo location (hsecond.logsTo location hlogs)
  node location htouched hlogs :=
    (hsecond.node location htouched fun h => hlogs (hfirst.logsTo location h)).trans
      (hfirst.node location htouched hlogs)

theorem mono (hfollows : Follows touched first second)
    (hmore : ∀ location, touched location → touched' location) :
    Follows touched' first second where
  keeps := hfollows.keeps
  logsTo := hfollows.logsTo
  node location htouched := hfollows.node location fun h => htouched (hmore location h)

end Follows

theorem follows_tell (session : Session) (records : List Log.Record) :
    Follows (fun _ => False) session (session.tell records) where
  keeps := keepsDirectories_tell session records
  logsTo _ := logsTo_tell.mp
  node _ _ hapart := node?_tell records hapart

theorem follows_withTree {session : Session} {tree : FileTree} {touched : Location → Prop}
    (hkeeps : FileTree.KeepsDirectories session.tree tree)
    (hnode : ∀ location, ¬ touched location →
      tree.node? location = session.tree.node? location) :
    Follows touched session (session.withTree tree) where
  keeps := hkeeps
  logsTo _ := LogsTo.of_withTree
  node location htouched _ := hnode location htouched

end Session

end EngineBindings
