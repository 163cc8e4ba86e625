/-
  EngineBindings/Proofs/FileTree/Write.lean
  =========================================
  **What a write can do to a tree.**

  A write has three ends, and `write_cases` names them all: it fails, it leaves a file alone
  whose text is the wanted one, or it puts one file in its place.  In each of them the
  directories above the file may have been made first; apart from these a failed write leaves
  the very tree that it began with, and a successful one differs from it in one node.

  The prepared file never shows.  Its name is free when it is chosen, because there are more
  names to choose from than nodes in the tree (`node?_preparedLocation`), it is longer than
  the name of the file that it is for, and it is gone when the write ends, whichever way
  (`placeText_cases`).

  Where the directory of the file is there already, nothing but the place of the file can
  change (`ChildOf.write_tree_cases`), and a write that succeeds leaves the text there
  (`ChildOf.holdsText_write`).
-/
import EngineBindings.FileTree.Write
import EngineBindings.Proofs.Dictionary
import EngineBindings.Proofs.FileTree.Encoding
import EngineBindings.Proofs.FileTree.Walk
import EngineBindings.Proofs.Text.Newline

namespace EngineBindings.FileTree

/-! ### The name of a prepared file -/

theorem ofDigitChars_eightDigits (n : Nat) :
    Nat.ofDigitChars 10 (eightDigits n).toList 0 = n := by
  rw [eightDigits, String.toList_ofList, Nat.ofDigitChars_append, Nat.ofDigitChars_replicate_zero,
    Nat.mul_zero, Nat.ofDigitChars_ten_toDigits]

theorem preparedName_injective (name : String) : Function.Injective (preparedName name) := by
  intro m n heq
  have hdigits : eightDigits m = eightDigits n := by
    have hlist := congrArg String.toList heq
    simp only [preparedName, String.toList_append, List.append_cancel_left_eq] at hlist
    exact String.toList_injective hlist
  rw [← ofDigitChars_eightDigits m, hdigits, ofDigitChars_eightDigits]

theorem preparedName_ne_self (name : String) (n : Nat) : preparedName name n ≠ name := by
  intro heq
  have hlength := congrArg (fun text : String => text.toList.length) heq
  simp only [preparedName, String.toList_append, List.length_append] at hlength
  have hdot : ".".toList.length = 1 := rfl
  omega

theorem preparedLocation_eq (tree : FileTree) (directory : Location) (name : String) :
    ∃ n, tree.preparedLocation directory name = directory ++ [preparedName name n] :=
  ⟨_, rfl⟩

/-- A file is prepared where nothing is: of the names that are tried, the nodes of the tree
    cannot hold all. -/
theorem node?_preparedLocation (tree : FileTree) (directory : Location) (name : String) :
    tree.node? (tree.preparedLocation directory name) = none := by
  unfold preparedLocation
  dsimp only
  cases hfind : (List.range (tree.nodes.length + 1)).find? fun n =>
      (tree.node? (directory ++ [preparedName name n])).isNone with
  | some n => simpa using List.find?_some hfind
  | none =>
    exfalso
    let candidates := (List.range (tree.nodes.length + 1)).map fun n =>
      directory ++ [preparedName name n]
    have hnodup : candidates.Nodup := by
      refine List.Pairwise.map _ ?_ List.nodup_range
      intro m n hne heq
      exact hne (preparedName_injective name (by simpa using heq))
    have htaken : candidates ⊆ Dictionary.keys tree.nodes := by
      intro place hplace
      obtain ⟨n, hn, rfl⟩ := List.mem_map.mp hplace
      have hsome := List.find?_eq_none.mp hfind n hn
      obtain ⟨node, hnode⟩ : ∃ node, tree.node? (directory ++ [preparedName name n]) =
          some node := by
        simpa [Option.ne_none_iff_exists'] using hsome
      rw [node?, if_neg (by simp)] at hnode
      exact Dictionary.mem_keys_of_get? hnode
    have hle := hnodup.length_le_of_subset htaken
    simp only [candidates, Dictionary.keys, List.length_map, List.length_range] at hle
    exact absurd hle (Nat.not_succ_le_self _)

theorem preparedAt_eq_ok {tree : FileTree} {path : Path} {prepared : Location}
    (hprepared : tree.preparedAt path = .ok prepared) :
    tree.node? prepared = none ∧
      ∃ directory n, prepared = directory ++ [preparedName path.name n] := by
  unfold preparedAt at hprepared
  simp only [bind, Except.bind] at hprepared
  split at hprepared
  · cases hprepared
  split at hprepared
  · cases hprepared
  split at hprepared
  · cases hprepared
  · rename_i directory _
    split at hprepared
    · split at hprepared
      · cases hprepared
      · cases hprepared
        obtain ⟨n, hn⟩ := preparedLocation_eq tree directory path.name
        exact ⟨node?_preparedLocation tree directory path.name, directory, n, hn⟩
    · cases hprepared
    · cases hprepared

/-! ### Placing a file -/

/-- What is put where nothing was is taken away without a trace. -/
theorem erase_insert_self {tree : FileTree} {place : Location} (node : Node)
    (hfree : tree.node? place = none) : (tree.insert place node).erase place = tree := by
  have hbelow := ne_root_of_node?_eq_none hfree
  rw [node?, if_neg hbelow] at hfree
  simp only [insert, erase, Dictionary.erase_insert_of_get?_eq_none hfree]

theorem insert_insert_self (tree : FileTree) (place : Location) (first second : Node) :
    (tree.insert place first).insert place second = tree.insert place second := by
  simp only [insert, Dictionary.insert_insert_self]

theorem erase_insert_of_ne (tree : FileTree) {place other : Location} (node : Node)
    (hne : place ≠ other) :
    (tree.insert other node).erase place = (tree.erase place).insert other node := by
  simp only [insert, erase, Dictionary.erase_insert_of_ne hne]

theorem keepsDirectories_of_insert_file {tree : FileTree} {place : Location} {bytes : ByteArray}
    {mode : Nat} (hbelow : place ≠ []) :
    KeepsDirectories (tree.insert place (.file bytes mode)) tree := by
  intro location hnode
  by_cases h : place = location
  · rw [← h, node?_insert_self tree _ hbelow] at hnode
    cases hnode
  · rwa [node?_insert_of_ne tree _ h] at hnode

theorem keepsDirectories_insert {tree : FileTree} {place : Location} {node : Node}
    (hplace : tree.node? place ≠ some .directory) :
    KeepsDirectories tree (tree.insert place node) := by
  intro location hnode
  have hne : place ≠ location := fun h => hplace (h ▸ hnode)
  rwa [node?_insert_of_ne tree _ hne]

/-- The last name of a path that leads somewhere else than up or to the root. -/
theorem walk_name {tree : FileTree} {path : Path} {place : Location}
    (hwalk : walk tree [] path.parts = .ok place) (hup : path.name ≠ "..") (hroot : place ≠ []) :
    ∃ directory, place = directory ++ [path.name] := by
  rcases List.eq_nil_or_concat path.parts with hnil | ⟨front, name, hparts⟩
  · rw [hnil, walk] at hwalk
    exact absurd (Except.ok.inj hwalk).symm hroot
  · have hname : path.name = name := by
      simp [Path.name, hparts]
    rw [hname] at hup ⊢
    rw [hparts, List.concat_eq_append] at hwalk
    obtain ⟨directory, -, -, hplace⟩ := walk_concat hup hwalk
    exact ⟨directory, hplace⟩

theorem replaceFile_eq_ok {tree replaced : FileTree} {path : Path} {bytes : ByteArray}
    {mode : Nat} (hreplaced : tree.replaceFile path bytes mode = .ok replaced) :
    ∃ place, tree.locate path = .ok place ∧ tree.node? place ≠ some .directory ∧
      replaced = tree.insert place (.file bytes mode) := by
  unfold replaceFile at hreplaced
  cases hlocate : tree.locate path with
  | error e =>
    rw [hlocate] at hreplaced
    cases hreplaced
  | ok place =>
    rw [hlocate] at hreplaced
    simp only [bind, Except.bind] at hreplaced
    split at hreplaced
    · cases hreplaced
    · rename_i hnode
      exact ⟨place, rfl, hnode, (Except.ok.inj hreplaced).symm⟩

/-- A prepared file that is moved to its path takes the place of whatever file was there, and
    nothing else is left of it. -/
theorem moveFile_prepared {tree moved : FileTree} {path : Path} {prepared : Location}
    {bytes : ByteArray} {mode : Nat} (hprepared : tree.preparedAt path = .ok prepared)
    (hmoved : (tree.insert prepared (.file bytes mode)).moveFile prepared path = .ok moved) :
    ∃ place, tree.locate path = .ok place ∧ tree.node? place ≠ some .directory ∧
      prepared ≠ place ∧ moved = tree.insert place (.file bytes mode) := by
  obtain ⟨hfree, directory, n, hname⟩ := preparedAt_eq_ok hprepared
  have hbelow := ne_root_of_node?_eq_none hfree
  have hself := node?_insert_self tree (.file bytes mode) hbelow
  unfold moveFile at hmoved
  rw [hself] at hmoved
  simp only [bind, Except.bind] at hmoved
  split at hmoved
  · cases hmoved
  split at hmoved
  · cases hmoved
  · rename_i hnamed
    split at hmoved
    · cases hmoved
    · rename_i replaced hreplaced
      obtain ⟨place, hlocate, hnode, rfl⟩ := replaceFile_eq_ok hreplaced
      have hup : path.name ≠ ".." := fun h => hnamed (by rw [h]; rfl)
      have hroot : place ≠ [] := by
        rintro rfl
        exact hnode (by simp [node?])
      -- the two places have different last names, so neither change sees the other
      have hne : prepared ≠ place := by
        intro heq
        obtain ⟨directory', hplace⟩ := walk_name (walk_of_locate hlocate) hup hroot
        have hlast := congrArg List.getLast? (hname.symm.trans (heq.trans hplace))
        rw [List.getLast?_concat, List.getLast?_concat] at hlast
        exact preparedName_ne_self path.name n (Option.some.inj hlast)
      refine ⟨place,
        locate_of_keepsDirectories (keepsDirectories_of_insert_file hbelow) hlocate, ?_, hne, ?_⟩
      · rwa [node?_insert_of_ne tree _ hne] at hnode
      · rw [← Except.ok.inj hmoved, erase_insert_of_ne _ _ hne, erase_insert_self _ hfree]

/-- A file is placed whole, or the tree stays as it is. -/
theorem placeText_cases (tree : FileTree) (path : Path) (content : String)
    (options : WriteOptions) :
    (∃ e, tree.placeText path content options = (tree, .error e)) ∨
      ∃ place bytes mode, tree.locate path = .ok place ∧
        tree.node? place ≠ some .directory ∧
        (∀ prepared, tree.preparedAt path = .ok prepared → prepared ≠ place) ∧
        options.encoding.encode? content = some bytes ∧ modeFor options = .ok mode ∧
        tree.placeText path content options = (tree.insert place (.file bytes mode), .ok ()) := by
  unfold placeText
  cases hprepared : tree.preparedAt path with
  | error e => exact Or.inl ⟨e, rfl⟩
  | ok prepared =>
    have hfree := (preparedAt_eq_ok hprepared).1
    dsimp only
    cases hencode : options.encoding.encode? content with
    | none =>
      rw [erase_insert_self _ hfree]
      exact Or.inl ⟨_, rfl⟩
    | some bytes =>
      dsimp only
      cases hmode : modeFor options with
      | error e =>
        dsimp only
        rw [erase_insert_self _ hfree]
        exact Or.inl ⟨_, rfl⟩
      | ok mode =>
        dsimp only
        rw [insert_insert_self]
        cases hmoved : (tree.insert prepared (.file bytes mode)).moveFile prepared path with
        | error e =>
          dsimp only
          rw [erase_insert_self _ hfree]
          exact Or.inl ⟨_, rfl⟩
        | ok moved =>
          obtain ⟨place, hlocate, hnode, hne, rfl⟩ := moveFile_prepared hprepared hmoved
          have hapart : ∀ other, .ok prepared = (.ok other : Except Error Location) →
              other ≠ place := by
            intro other hother
            exact Except.ok.inj hother ▸ hne
          exact Or.inr ⟨place, bytes, mode, hlocate, hnode, hapart, rfl, rfl, rfl⟩

/-! ### Writing -/

theorem readBytes_eq_ok {tree : FileTree} {path : Path} {bytes : ByteArray}
    (hread : tree.readBytes path = .ok bytes) :
    ∃ place mode, tree.locate path = .ok place ∧
      tree.node? place = some (.file bytes mode) := by
  unfold readBytes readBytesFrom lookupFrom at hread
  cases hlocate : tree.locateFrom .root path with
  | error e =>
    rw [hlocate] at hread
    cases hread
  | ok place =>
    rw [hlocate] at hread
    simp only [bind, Except.bind] at hread
    cases hnode : tree.node? place with
    | none =>
      rw [hnode] at hread
      cases hread
    | some node =>
      rw [hnode] at hread
      cases node with
      | directory => cases hread
      | file bytes' mode =>
        cases hread
        exact ⟨place, mode, hlocate, hnode⟩

theorem holdsText_eq_true {tree : FileTree} {path : Path} {encoding : Encoding}
    {content : String} (hholds : tree.holdsText path encoding content = .ok true) :
    ∃ place bytes mode old, tree.locate path = .ok place ∧
      tree.node? place = some (.file bytes mode) ∧ encoding.decode? bytes = some old ∧
      Text.unixNewlines old = content := by
  unfold holdsText readText? at hholds
  cases hread : tree.readBytes path with
  | error e =>
    rw [hread] at hholds
    cases e <;> simp [Except.map] at hholds
  | ok bytes =>
    rw [hread] at hholds
    dsimp only at hholds
    cases hdecode : encoding.decode? bytes with
    | none =>
      rw [hdecode] at hholds
      cases hholds
    | some old =>
      rw [hdecode] at hholds
      have hsame : Text.unixNewlines old = content := by
        simpa [Except.map] using hholds
      obtain ⟨place, mode, hlocate, hnode⟩ := readBytes_eq_ok hread
      exact ⟨place, bytes, mode, old, hlocate, hnode, hdecode, hsame⟩

/-- The three ends of a write: it fails, the file is left alone, or the file is placed.  All
    of them begin with the directories above the file. -/
theorem write_cases (tree : FileTree) (path : Path) (text : String) {options : WriteOptions}
    (hreal : options.dryRun = false) :
    (∃ e, tree.write path text options =
        ⟨(tree.withParents path options).1, [], .error e⟩) ∨
      ((tree.withParents path options).2 = .ok () ∧
        (tree.withParents path options).1.isCurrent path (Text.unixNewlines text) options =
          .ok true ∧
        tree.write path text options =
          ⟨(tree.withParents path options).1, writeLog options
            (Log.debug Log.filesLogger ("[skip] " ++ path.text ++ " (unchanged)")),
            .ok false⟩) ∨
      ((tree.withParents path options).2 = .ok () ∧
        (tree.withParents path options).1.isCurrent path (Text.unixNewlines text) options =
          .ok false ∧
        ∃ place bytes mode,
          (tree.withParents path options).1.locate path = .ok place ∧
          (tree.withParents path options).1.node? place ≠ some .directory ∧
          (∀ prepared, (tree.withParents path options).1.preparedAt path = .ok prepared →
            prepared ≠ place) ∧
          options.encoding.encode? (Text.unixNewlines text) = some bytes ∧
          modeFor options = .ok mode ∧
          tree.write path text options =
            ⟨(tree.withParents path options).1.insert place (.file bytes mode), writeLog options
              (Log.info Log.filesLogger ("[write] " ++ path.text)), .ok true⟩) := by
  unfold write
  rw [if_neg (by simp [hreal])]
  cases hparents : tree.withParents path options with
  | mk above result =>
    dsimp only
    cases result with
    | error e => exact Or.inl ⟨e, rfl⟩
    | ok _ =>
      dsimp only
      cases hcurrent : above.isCurrent path (Text.unixNewlines text) options with
      | error e => exact Or.inl ⟨e, rfl⟩
      | ok current =>
        cases current with
        | true => exact Or.inr (Or.inl ⟨rfl, rfl, rfl⟩)
        | false =>
          dsimp only
          rcases placeText_cases above path (Text.unixNewlines text) options with
            ⟨e, hplace⟩ | ⟨place, bytes, mode, hlocate, hnode, hapart, hencode, hmode, hplace⟩
          · rw [hplace]
            exact Or.inl ⟨e, rfl⟩
          · rw [hplace]
            exact Or.inr (Or.inr ⟨rfl, rfl, place, bytes, mode, hlocate, hnode, hapart, hencode,
              hmode, rfl⟩)

/-! ### Writing in a directory that is there -/

/-- A path leads to a place with a file of the text, line endings apart. -/
structure HoldsText (tree : FileTree) (path : Path) (place : Location) (text : String) :
    Prop where
  locate : tree.locate path = .ok place
  file : ∃ bytes mode held, tree.node? place = some (.file bytes mode) ∧
    Encoding.utf8.decode? bytes = some held ∧ Text.unixNewlines held = Text.unixNewlines text

theorem HoldsText.of_keepsDirectories {before after : FileTree} {path : Path} {place : Location}
    {text : String} (hholds : before.HoldsText path place text)
    (hkeeps : KeepsDirectories before after) (hnode : after.node? place = before.node? place) :
    after.HoldsText path place text where
  locate := locate_of_keepsDirectories hkeeps hholds.locate
  file := hnode ▸ hholds.file

section

variable {tree : FileTree} {path : Path} {here : Location} {name : String}

/-- The directory of a path leads to a directory, and the last name of the path names a child
    of it. -/
structure ChildOf (tree : FileTree) (path : Path) (here : Location) (name : String) : Prop where
  parts : path.parts = path.parent.parts ++ [name]
  up : name ≠ ".."
  walk : walk tree [] path.parent.parts = .ok here
  directory : tree.node? here = some .directory

namespace ChildOf

theorem place_eq (hchild : ChildOf tree path here name) {place : Location}
    (hlocate : tree.locate path = .ok place) : place = here ++ [name] := by
  have hwalk := walk_of_locate hlocate
  rw [hchild.parts] at hwalk
  obtain ⟨there, hfront, -, hplace⟩ := walk_concat hchild.up hwalk
  rw [hchild.walk] at hfront
  rw [hplace, Except.ok.inj hfront]

theorem withParents_eq (hchild : ChildOf tree path here name) (options : WriteOptions) :
    (tree.withParents path options).1 = tree := by
  unfold withParents
  split
  · exact ensureDirectory_eq_self hchild.walk hchild.directory
  · rfl

/-- A write leaves the tree as it is, or puts a file in the place of the child. -/
theorem write_tree_cases (hchild : ChildOf tree path here name) (text : String)
    (options : WriteOptions) :
    (tree.write path text options).tree = tree ∨
      ∃ bytes mode, tree.node? (here ++ [name]) ≠ some .directory ∧
        (tree.write path text options).tree =
          tree.insert (here ++ [name]) (.file bytes mode) := by
  cases hdry : options.dryRun with
  | true =>
    left
    rw [write, if_pos hdry]
  | false =>
    have hparents := hchild.withParents_eq options
    rcases write_cases tree path text hdry with ⟨e, hwrite⟩ | ⟨-, -, hwrite⟩ |
      ⟨-, -, place, bytes, mode, hlocate, hnode, -, -, -, hwrite⟩
    · exact Or.inl (by rw [hwrite, hparents])
    · exact Or.inl (by rw [hwrite, hparents])
    · rw [hparents] at hlocate hnode hwrite
      have hplace := hchild.place_eq hlocate
      subst hplace
      exact Or.inr ⟨bytes, mode, hnode, by rw [hwrite]⟩

/-- A write that fails leaves the tree as it is. -/
theorem write_tree_of_error (hchild : ChildOf tree path here name) {text : String}
    {options : WriteOptions} {e : Error} (hfails : (tree.write path text options).result = .error e) :
    (tree.write path text options).tree = tree := by
  cases hdry : options.dryRun with
  | true => rw [write, if_pos hdry]
  | false =>
    rcases write_cases tree path text hdry with ⟨_, hwrite⟩ | ⟨-, -, hwrite⟩ |
      ⟨-, -, _, _, _, -, -, -, -, -, hwrite⟩
    · rw [hwrite]
      exact hchild.withParents_eq options
    · rw [hwrite] at hfails
      cases hfails
    · rw [hwrite] at hfails
      cases hfails

/-- After a write that succeeds the path holds the text. -/
theorem holdsText_write (hchild : ChildOf tree path here name) {text : String}
    {options : WriteOptions} (hreal : options.dryRun = false) (hutf8 : options.encoding = .utf8)
    {written : Bool} (hok : (tree.write path text options).result = .ok written) :
    HoldsText (tree.write path text options).tree path (here ++ [name]) text := by
  have hparents := hchild.withParents_eq options
  have hkeeps : KeepsDirectories tree (tree.write path text options).tree := by
    rcases hchild.write_tree_cases text options with hsame | ⟨bytes, mode, hnode, hplaced⟩
    · rw [hsame]
      exact KeepsDirectories.refl tree
    · rw [hplaced]
      exact keepsDirectories_insert hnode
  rcases write_cases tree path text hreal with ⟨e, hwrite⟩ | ⟨-, hcurrent, hwrite⟩ |
    ⟨-, -, place, bytes, mode, hlocate, hnode, -, hencode, -, hwrite⟩
  · rw [hwrite] at hok
    cases hok
  · rw [hparents] at hcurrent hwrite
    unfold isCurrent at hcurrent
    split at hcurrent
    · obtain ⟨place, bytes, mode, old, hlocate, hnode, hdecode, hsame⟩ :=
        holdsText_eq_true hcurrent
      have hplace := hchild.place_eq hlocate
      subst hplace
      rw [hutf8] at hdecode
      refine ⟨locate_of_keepsDirectories hkeeps hlocate, bytes, mode, old, ?_, hdecode, hsame⟩
      rw [hwrite]
      exact hnode
    · cases hcurrent
  · rw [hparents] at hlocate hwrite
    have hplace := hchild.place_eq hlocate
    subst hplace
    rw [hutf8] at hencode
    refine ⟨locate_of_keepsDirectories hkeeps hlocate, bytes, mode, Text.unixNewlines text, ?_,
      Encoding.decode?_encode? hencode, Text.unixNewlines_unixNewlines text⟩
    rw [hwrite]
    exact node?_insert_self tree _ (by simp)

end ChildOf

end

end EngineBindings.FileTree
