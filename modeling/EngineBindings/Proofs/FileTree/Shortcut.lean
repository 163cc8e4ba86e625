/-
  EngineBindings/Proofs/FileTree/Shortcut.lean
  ============================================
  **A write that may leave its file alone, beside one that may not.**

  Both writes make the same directories, and from there on they differ in one thing: the first
  reads the file that it finds at its path.  Where there is no file, or one with another text,
  the two writes are the same (`writes_alike`).  Where the file holds the text already, line
  endings apart, it keeps its own bytes and permission bits in the one run and gets new ones in
  the other, which may even fail, for its reasons do not lie in the text: the name of a prepared
  file or its path would be too long, or the permission bits are out of range
  (`placeText_eq_ok_iff`).  Main statement: `skipping_beside_replacing`.
-/
import EngineBindings.Proofs.FileTree.Straight

namespace EngineBindings

def WriteOutcome.Returns (outcome : WriteOutcome) : Prop :=
  ∃ written, outcome.result = .ok written

namespace WriteOptions

def skipping (options : WriteOptions) : WriteOptions :=
  { options with skipUnchanged := true }

def replacing (options : WriteOptions) : WriteOptions :=
  { options with skipUnchanged := false }

end WriteOptions

theorem Path.not_holdsNull_name {path : Path} (hplain : path.holdsNull = false) :
    path.name.toList.contains '\x00' = false := by
  unfold holdsNull at hplain
  rw [List.any_eq_false] at hplain
  unfold name
  rcases List.eq_nil_or_concat path.parts with hnil | ⟨front, last, hparts⟩
  · rw [hnil]
    rfl
  · rw [List.concat_eq_append] at hparts
    have hlast := hplain last (hparts ▸ List.mem_append_right _ List.mem_cons_self)
    rw [hparts, List.getLast?_concat]
    simpa using hlast

namespace FileTree

variable {tree : FileTree} {path : Path} {place : Location}

/-! ### When a file can be placed -/

/-- The limits of names and of paths leave room for the file that is prepared beside a path. -/
def HasRoomBeside (path : Path) : Prop :=
  path.name.utf8ByteSize + preparedNameBytes ≤ maxNameBytes ∧
    path.straight.text.utf8ByteSize + preparedNameBytes ≤ maxPathBytes

instance (path : Path) : Decidable (HasRoomBeside path) :=
  inferInstanceAs (Decidable (_ ∧ _))

/-- Where a path leads to something else than a directory, only the limits are in the way of a
    file that is prepared beside it. -/
theorem preparedAt_of_locate (hlocate : tree.locate path = .ok place)
    (hnode : tree.node? place ≠ some .directory) :
    ∃ prepared, tree.preparedAt path =
      if HasRoomBeside path then .ok prepared else .error .nameTooLong := by
  obtain ⟨directory, -, -, hdirectory, hfolder⟩ := locate_straightParent hlocate hnode
  have hplain : path.holdsNull = false := by
    unfold locate locateFrom at hlocate
    split at hlocate
    · cases hlocate
    · rename_i hnull
      simpa using hnull
  have hnull : (path.straightParent.holdsNull || path.name.toList.contains '\x00') = false := by
    rw [Path.holdsNull_straightParent hplain, Path.not_holdsNull_name hplain]
    rfl
  refine ⟨tree.preparedLocation directory path.name, ?_⟩
  unfold preparedAt
  rw [hnull, hdirectory]
  simp only [bind, Except.bind, Bool.false_eq_true, if_false]
  rw [hfolder]
  dsimp only
  by_cases hpath : maxPathBytes < path.straight.text.utf8ByteSize + preparedNameBytes
  · have hroom : ¬ HasRoomBeside path := fun h => Nat.not_le.mpr hpath h.2
    rw [if_pos hpath, if_neg hroom]
    rfl
  rw [if_neg hpath]
  by_cases hname : maxNameBytes < path.name.utf8ByteSize + preparedNameBytes
  · have hroom : ¬ HasRoomBeside path := fun h => Nat.not_le.mpr hname h.1
    rw [if_pos hname, if_neg hroom]
    rfl
  · have hroom : HasRoomBeside path := ⟨Nat.not_lt.mp hname, Nat.not_lt.mp hpath⟩
    rw [if_neg hname, if_pos hroom]
    rfl

theorem replaceFile_of_locate (hlocate : tree.locate path = .ok place)
    (hnode : tree.node? place ≠ some .directory) (bytes : ByteArray) (mode : Nat) :
    tree.replaceFile path bytes mode = .ok (tree.insert place (.file bytes mode)) := by
  unfold replaceFile
  rw [hlocate]
  -- no directory stands at the place, so the file is put there
  simp only [bind, Except.bind]
  rfl

theorem moveFile_eq_ok {prepared : Location} {bytes : ByteArray} {mode : Nat}
    (hprepared : tree.preparedAt path = .ok prepared) (hlocate : tree.locate path = .ok place)
    (hnode : tree.node? place ≠ some .directory) :
    (tree.insert prepared (.file bytes mode)).moveFile prepared path =
      .ok (tree.insert place (.file bytes mode)) := by
  have hfree := (preparedAt_eq_ok hprepared).1
  have hbelow := ne_root_of_node?_eq_none hfree
  obtain ⟨-, hup, -⟩ := locate_straightParent hlocate hnode
  have hnamed : ¬ (path.name = ".." || path.parts = []) := by
    simpa using ⟨hup, parts_ne_nil_of_locate hlocate hnode⟩
  have hthere : (tree.insert prepared (.file bytes mode)).locate path = .ok place :=
    locate_of_keepsDirectories (keepsDirectories_insert (by rw [hfree]; nofun)) hlocate
  have hstill : (tree.insert prepared (.file bytes mode)).node? place ≠ some .directory := by
    intro hdirectory
    exact hnode (keepsDirectories_of_insert_file hbelow place hdirectory)
  obtain ⟨moved, hmoved⟩ :
      ∃ moved, (tree.insert prepared (.file bytes mode)).moveFile prepared path = .ok moved := by
    unfold moveFile
    rw [node?_insert_self tree _ hbelow]
    simp only [bind, Except.bind, hthere, if_neg hnamed, replaceFile_of_locate hthere hstill]
    exact ⟨_, rfl⟩
  obtain ⟨other, hother, -, -, rfl⟩ := moveFile_prepared hprepared hmoved
  rw [hlocate] at hother
  rw [hmoved, Except.ok.inj hother]

/-- A text that can be encoded is placed exactly when there is room beside the path and the
    permission bits are in range. -/
theorem placeText_eq_ok_iff {content : String} {options : WriteOptions} {bytes : ByteArray}
    (hlocate : tree.locate path = .ok place) (hnode : tree.node? place ≠ some .directory)
    (hencode : options.encoding.encode? content = some bytes) :
    (tree.placeText path content options).2 = .ok () ↔
      HasRoomBeside path ∧ ∃ mode, modeFor options = .ok mode := by
  obtain ⟨prepared, hprepared⟩ := preparedAt_of_locate hlocate hnode
  unfold placeText
  by_cases hroom : HasRoomBeside path
  · rw [if_pos hroom] at hprepared
    rw [hprepared]
    dsimp only
    rw [hencode]
    dsimp only
    cases hmode : modeFor options with
    | error e => exact iff_of_false nofun (by rintro ⟨-, mode, hother⟩; cases hother)
    | ok mode =>
      dsimp only
      rw [insert_insert_self, moveFile_eq_ok hprepared hlocate hnode]
      exact iff_of_true rfl ⟨hroom, mode, rfl⟩
  · rw [hprepared, if_neg hroom]
    exact iff_of_false nofun fun h => hroom h.1

/-! ### What a write finds -/

/-- A write finds a file at a place: it gets its directories, and the path leads to the file. -/
structure Finds (tree : FileTree) (path : Path) (options : WriteOptions) (place : Location)
    (bytes : ByteArray) (mode : Nat) : Prop where
  made : (tree.withParents path options).2 = .ok ()
  locate : (tree.withParents path options).1.locate path = .ok place
  file : (tree.withParents path options).1.node? place = some (.file bytes mode)

theorem readBytes_of_file {bytes : ByteArray} {mode : Nat} (hlocate : tree.locate path = .ok place)
    (hfile : tree.node? place = some (.file bytes mode)) : tree.readBytes path = .ok bytes := by
  change tree.locateFrom .root path = .ok place at hlocate
  unfold readBytes readBytesFrom lookupFrom
  rw [hlocate]
  simp only [bind, Except.bind]
  rw [hfile]
  rfl

theorem readBytes_of_nothing (hlocate : tree.locate path = .ok place)
    (hnothing : tree.node? place = none) : tree.readBytes path = .error .notFound := by
  change tree.locateFrom .root path = .ok place at hlocate
  unfold readBytes readBytesFrom lookupFrom
  rw [hlocate]
  simp only [bind, Except.bind]
  rw [hnothing]
  rfl

section

variable {text : String} {options : WriteOptions}

theorem write_of_not_made (text : String) (options : WriteOptions)
    (hreal : options.dryRun = false) {e : Error}
    (hfails : (tree.withParents path options).2 = .error e) :
    tree.write path text options = ⟨(tree.withParents path options).1, [], .error e⟩ := by
  unfold write
  rw [if_neg (by simp [hreal])]
  cases hparents : tree.withParents path options with
  | mk above result =>
    rw [hparents] at hfails
    cases hfails
    rfl

/-- Once its directories are there, a write ends as its check of the old text does, or as the
    placing of the new one. -/
theorem write_of_made (text : String) (options : WriteOptions) (hreal : options.dryRun = false)
    (hmade : (tree.withParents path options).2 = .ok ()) :
    tree.write path text options =
      match (tree.withParents path options).1.isCurrent path (Text.unixNewlines text) options with
      | .error e => ⟨(tree.withParents path options).1, [], .error e⟩
      | .ok true =>
        ⟨(tree.withParents path options).1, writeLog options (unchangedRecord path), .ok false⟩
      | .ok false =>
        match (tree.withParents path options).1.placeText path (Text.unixNewlines text)
          options with
        | (placed, .error e) => ⟨placed, [], .error e⟩
        | (placed, .ok ()) =>
          ⟨placed, writeLog options (Log.info Log.filesLogger ("[write] " ++ path.text)),
            .ok true⟩ := by
  unfold write
  rw [if_neg (by simp [hreal])]
  cases hparents : tree.withParents path options with
  | mk above result =>
    rw [hparents] at hmade
    cases hmade
    rfl

/-! ### The two writes -/

theorem write_skipping_of_made (text : String) (hreal : options.dryRun = false)
    (hmade : (tree.withParents path options).2 = .ok ()) :
    tree.write path text options.skipping =
      match (tree.withParents path options).1.isCurrent path (Text.unixNewlines text)
        options.skipping with
      | .error e => ⟨(tree.withParents path options).1, [], .error e⟩
      | .ok true =>
        ⟨(tree.withParents path options).1, writeLog options (unchangedRecord path), .ok false⟩
      | .ok false => tree.write path text options.replacing := by
  have hreplacing := write_of_made text options.replacing hreal hmade
  rw [hreplacing]
  exact write_of_made text options.skipping hreal hmade

/-- The two ends of a write that asks nothing of the file. -/
theorem write_replacing_cases (tree : FileTree) (path : Path) (text : String)
    (hreal : options.dryRun = false) :
    (∃ e, tree.write path text options.replacing =
        ⟨(tree.withParents path options).1, [], .error e⟩) ∨
      ∃ place bytes bits, (tree.withParents path options).1.locate path = .ok place ∧
        (tree.withParents path options).1.node? place ≠ some .directory ∧
        options.encoding.encode? (Text.unixNewlines text) = some bytes ∧
        modeFor options = .ok bits ∧
        (tree.write path text options.replacing).tree =
          (tree.withParents path options).1.insert place (.file bytes bits) := by
  have hreplacing : options.replacing.dryRun = false := hreal
  rcases write_cases tree path text hreplacing with
    hfails | ⟨-, hnever, -⟩ | ⟨-, -, place, bytes, bits, hlocate, hnode, -, hencode, hmode, hwrite⟩
  · exact Or.inl hfails
  · cases hnever
  · exact Or.inr ⟨place, bytes, bits, hlocate, hnode, hencode, hmode, by rw [hwrite]; rfl⟩

theorem returns_replacing_iff (hreal : options.dryRun = false)
    (hmade : (tree.withParents path options).2 = .ok ()) :
    (tree.write path text options.replacing).Returns ↔
      ((tree.withParents path options).1.placeText path (Text.unixNewlines text) options).2 =
        .ok () := by
  have hreplacing := write_of_made text options.replacing hreal hmade
  rw [hreplacing]
  change WriteOutcome.Returns (match (tree.withParents path options).1.placeText path
    (Text.unixNewlines text) options with | (placed, .error e) => _ | (placed, .ok ()) => _) ↔ _
  cases (tree.withParents path options).1.placeText path (Text.unixNewlines text) options with
  | mk placed result =>
    cases result with
    | error e => exact iff_of_false nofun nofun
    | ok _ => exact iff_of_true ⟨true, rfl⟩ rfl

/-! ### What the shortcut asks of the file -/

variable {bytes : ByteArray} {mode : Nat}

theorem Finds.isCurrent_eq (text : String) (hfinds : Finds tree path options place bytes mode) :
    (tree.withParents path options).1.isCurrent path (Text.unixNewlines text) options.skipping =
      match options.encoding.decode? bytes with
      | some held => .ok (Text.unixNewlines held = Text.unixNewlines text)
      | none => .error .undecodable := by
  have hskip : options.skipping.skipUnchanged = true := rfl
  have hencoding : options.skipping.encoding = options.encoding := rfl
  rw [isCurrent, if_pos hskip, hencoding, holdsText, readText?,
    readBytes_of_file hfinds.locate hfinds.file]
  cases hdecode : options.encoding.decode? bytes with
  | none => simp [hdecode, Except.map]
  | some held => simp [hdecode, Except.map]

theorem isCurrent_of_nothing (hlocate : tree.locate path = .ok place)
    (hnothing : tree.node? place = none) :
    tree.isCurrent path (Text.unixNewlines text) options = .ok false := by
  unfold isCurrent holdsText readText?
  rw [readBytes_of_nothing hlocate hnothing]
  split <;> rfl

theorem Finds.not_directory (hfinds : Finds tree path options place bytes mode) :
    (tree.withParents path options).1.node? place ≠ some .directory := by
  rw [hfinds.file]
  nofun

/-- Both writes come to the same where no file with the text is found, and none that is no text
    at all. -/
theorem writes_alike (hreal : options.dryRun = false)
    (hother : ∀ place bytes mode, Finds tree path options place bytes mode →
      ∃ held, options.encoding.decode? bytes = some held ∧
        Text.unixNewlines held ≠ Text.unixNewlines text) :
    ((tree.write path text options.skipping).Returns ↔
        (tree.write path text options.replacing).Returns) ∧
      (tree.write path text options.skipping).tree =
        (tree.write path text options.replacing).tree := by
  cases hmade : (tree.withParents path options).2 with
  | error e =>
    rw [write_of_not_made text options.skipping hreal hmade,
      write_of_not_made text options.replacing hreal hmade]
    exact ⟨Iff.rfl, rfl⟩
  | ok _ =>
    cases hcurrent : (tree.withParents path options).1.isCurrent path (Text.unixNewlines text)
        options.skipping with
    | ok current =>
      cases current with
      | false =>
        rw [write_skipping_of_made text hreal hmade, hcurrent]
        exact ⟨Iff.rfl, rfl⟩
      | true =>
        exfalso
        obtain ⟨place, hlocate, bytes, mode, held, hfile, hdecode, hsame⟩ :=
          holdsIn_of_isCurrent hcurrent
        obtain ⟨held', hdecode', hdiffers⟩ := hother place bytes mode ⟨hmade, hlocate, hfile⟩
        have hheld : held = held' := Option.some.inj (hdecode.symm.trans hdecode')
        exact hdiffers (hheld ▸ hsame)
    | error e =>
      -- a check that fails has found something else than a file, where nothing can be placed
      have hskipping := write_skipping_of_made text hreal hmade
      rw [hcurrent] at hskipping
      rcases write_replacing_cases tree path text hreal with
        ⟨e', hreplacing⟩ | ⟨place, bytes, bits, hlocate, hnode, -⟩
      · rw [hskipping, hreplacing]
        exact ⟨iff_of_false nofun nofun, rfl⟩
      · exfalso
        cases hfile : (tree.withParents path options).1.node? place with
        | none =>
          rw [isCurrent_of_nothing hlocate hfile] at hcurrent
          cases hcurrent
        | some node =>
          cases node with
          | directory => exact hnode hfile
          | file held bits =>
            have hfinds : Finds tree path options place held bits := ⟨hmade, hlocate, hfile⟩
            obtain ⟨old, hdecode, -⟩ := hother place held bits hfinds
            rw [hfinds.isCurrent_eq text, hdecode] at hcurrent
            cases hcurrent

/-- Where a file with the text is found, the write that may skip it does so. -/
theorem Finds.write_skipping_of_held (hreal : options.dryRun = false)
    (hfinds : Finds tree path options place bytes mode) {held : String}
    (hdecode : options.encoding.decode? bytes = some held)
    (hsame : Text.unixNewlines held = Text.unixNewlines text) :
    tree.write path text options.skipping =
      ⟨(tree.withParents path options).1, writeLog options (unchangedRecord path), .ok false⟩ := by
  rw [write_skipping_of_made text hreal hfinds.made, hfinds.isCurrent_eq text, hdecode]
  dsimp only
  rw [decide_eq_true hsame]

theorem Finds.write_skipping_of_undecodable (hreal : options.dryRun = false)
    (hfinds : Finds tree path options place bytes mode)
    (hdecode : options.encoding.decode? bytes = none) :
    tree.write path text options.skipping =
      ⟨(tree.withParents path options).1, [], .error .undecodable⟩ := by
  rw [write_skipping_of_made text hreal hfinds.made, hfinds.isCurrent_eq text, hdecode]

/-- What was read as the text can be written again, so nothing but the limits and the permission
    bits can be in the way of the write that replaces it. -/
theorem Finds.returns_replacing_iff (hreal : options.dryRun = false)
    (hfinds : Finds tree path options place bytes mode) {held : String}
    (hdecode : options.encoding.decode? bytes = some held)
    (hsame : Text.unixNewlines held = Text.unixNewlines text) :
    (tree.write path text options.replacing).Returns ↔
      HasRoomBeside path ∧ ∃ bits, modeFor options = .ok bits := by
  have hchars : ∀ c ∈ (Text.unixNewlines text).toList, c ∈ held.toList ∨ c = '\n' := by
    rw [← hsame]
    exact fun c => Text.mem_unixNewlines
  obtain ⟨encoded, hencode⟩ := Encoding.exists_encode?_of_decode? hdecode hchars
  rw [FileTree.returns_replacing_iff hreal hfinds.made]
  exact placeText_eq_ok_iff hfinds.locate hfinds.not_directory hencode

/-- A write that replaces the file leaves the bytes of the text and the permission bits that were
    asked for, and everything else as the one that skips it. -/
theorem Finds.replaced (hreal : options.dryRun = false)
    (hfinds : Finds tree path options place bytes mode)
    (hreturns : (tree.write path text options.replacing).Returns) :
    ∃ encoded bits, options.encoding.encode? (Text.unixNewlines text) = some encoded ∧
      modeFor options = .ok bits ∧
      (tree.write path text options.replacing).tree =
        (tree.withParents path options).1.insert place (.file encoded bits) := by
  rcases write_replacing_cases tree path text hreal with
    ⟨e, hwrite⟩ | ⟨other, encoded, bits, hlocate, -, hencode, hmode, htree⟩
  · obtain ⟨written, hok⟩ := hreturns
    rw [hwrite] at hok
    cases hok
  · have hplace : other = place := Except.ok.inj (hlocate.symm.trans hfinds.locate)
    exact ⟨encoded, bits, hencode, hmode, hplace ▸ htree⟩

end

/-! ### The shortcut -/

def SameNodes (first second : FileTree) : Prop :=
  ∀ location, first.node? location = second.node? location

theorem sameNodes_insert_iff {node other : Node} (hnode : tree.node? place = some node)
    (hbelow : place ≠ []) : SameNodes tree (tree.insert place other) ↔ node = other := by
  constructor
  · intro hsame
    have hplace := hsame place
    rw [hnode, node?_insert_self tree _ hbelow] at hplace
    exact Option.some.inj hplace
  · intro hsame location
    by_cases h : place = location
    · rw [← h, node?_insert_self tree _ hbelow, hnode, hsame]
    · rw [node?_insert_of_ne tree _ h]

/-- The write that leaves a file alone whose text is the wanted one does the same as the write that
    replaces it, unless it finds a file with the text, line endings apart, or with bytes that are
    no text.  In the first case it returns and the file keeps its bytes and permission bits; the
    other write returns exactly if there is room beside the path and the permission bits are in
    range, and then it leaves the same tree but for this file, and the very same exactly if the
    file had the bytes of the normal form and the permission bits that were asked for.  In the
    second case it fails, and leaves the tree with the directories. -/
theorem skipping_beside_replacing (tree : FileTree) (path : Path) (text : String)
    (options : WriteOptions) (hreal : options.dryRun = false) :
    ((∀ place bytes mode, Finds tree path options place bytes mode →
        ∃ held, options.encoding.decode? bytes = some held ∧
          Text.unixNewlines held ≠ Text.unixNewlines text) →
      ((tree.write path text options.skipping).Returns ↔
          (tree.write path text options.replacing).Returns) ∧
        (tree.write path text options.skipping).tree =
          (tree.write path text options.replacing).tree) ∧
    ∀ place bytes mode, Finds tree path options place bytes mode →
      (∀ held, options.encoding.decode? bytes = some held →
        Text.unixNewlines held = Text.unixNewlines text →
        (tree.write path text options.skipping).result = .ok false ∧
        (tree.write path text options.skipping).tree.node? place = some (.file bytes mode) ∧
        ((tree.write path text options.replacing).Returns ↔
          HasRoomBeside path ∧ ∃ bits, modeFor options = .ok bits) ∧
        ((tree.write path text options.replacing).Returns →
          ∃ encoded bits, options.encoding.encode? (Text.unixNewlines text) = some encoded ∧
            modeFor options = .ok bits ∧
            (tree.write path text options.replacing).tree.node? place =
              some (.file encoded bits) ∧
            (∀ location, location ≠ place →
              (tree.write path text options.replacing).tree.node? location =
                (tree.write path text options.skipping).tree.node? location) ∧
            (SameNodes (tree.write path text options.skipping).tree
                (tree.write path text options.replacing).tree ↔
              bytes = encoded ∧ mode = bits))) ∧
      (options.encoding.decode? bytes = none →
        (tree.write path text options.skipping).result = .error .undecodable ∧
        (tree.write path text options.skipping).tree = (tree.withParents path options).1) := by
  refine ⟨writes_alike hreal, ?_⟩
  intro place bytes mode hfinds
  have hbelow : place ≠ [] := by
    rintro rfl
    exact hfinds.not_directory (by simp [node?])
  refine ⟨?_, ?_⟩
  · intro held hdecode hsame
    rw [hfinds.write_skipping_of_held hreal hdecode hsame]
    refine ⟨rfl, hfinds.file, hfinds.returns_replacing_iff hreal hdecode hsame, ?_⟩
    intro hreturns
    obtain ⟨encoded, bits, hencode, hmode, htree⟩ := hfinds.replaced hreal hreturns
    rw [htree]
    refine ⟨encoded, bits, hencode, hmode, node?_insert_self _ _ hbelow, ?_, ?_⟩
    · intro location hother
      exact node?_insert_of_ne _ _ hother.symm
    · rw [sameNodes_insert_iff hfinds.file hbelow, Node.file.injEq]
  · intro hdecode
    rw [hfinds.write_skipping_of_undecodable hreal hdecode]
    exact ⟨rfl, rfl⟩

def latinOptions : WriteOptions := { encoding := .latin1, mode := some 0o640 }

/-- The file holds the text but for its line ending: both writes return, and they leave it with
    other permission bits. -/
theorem latin_file_skipped_or_replaced :
    latinOptions.dryRun = false ∧
      Finds latinTree ⟨1, ["d", "f"]⟩ latinOptions ["d", "f"] ⟨#[0xe9, 13, 10]⟩ 0o600 ∧
      (latinTree.write ⟨1, ["d", "f"]⟩ "é\n" latinOptions.skipping).result = .ok false ∧
      (latinTree.write ⟨1, ["d", "f"]⟩ "é\n" latinOptions.replacing).Returns ∧
      ¬ SameNodes (latinTree.write ⟨1, ["d", "f"]⟩ "é\n" latinOptions.skipping).tree
        (latinTree.write ⟨1, ["d", "f"]⟩ "é\n" latinOptions.replacing).tree := by
  have hreal : latinOptions.dryRun = false := rfl
  have hfinds : Finds latinTree ⟨1, ["d", "f"]⟩ latinOptions ["d", "f"] ⟨#[0xe9, 13, 10]⟩ 0o600 :=
    ⟨by decide, by decide, by decide⟩
  obtain ⟨-, hfound⟩ := skipping_beside_replacing latinTree ⟨1, ["d", "f"]⟩ "é\n" latinOptions hreal
  obtain ⟨hskipped, -, hreturns, hreplaced⟩ :=
    (hfound _ _ _ hfinds).1 "é\r\n" (by decide) (by decide)
  have hreturned := hreturns.mpr ⟨by decide, 0o640, by decide⟩
  obtain ⟨encoded, bits, -, hmode, -, -, hsame⟩ := hreplaced hreturned
  refine ⟨hreal, hfinds, hskipped, hreturned, fun hnodes => ?_⟩
  rw [← (hsame.mp hnodes).2] at hmode
  exact absurd hmode (by decide)

def fileOf (bytes : ByteArray) : FileTree :=
  empty.insert ["a"] (.file bytes defaultMode)

/-- A file that ends in `\r\n` keeps its line ending in the one run and not in the other.  A file
    with a byte that is no UTF-8 is in the way of the first write alone, and permission bits out of
    range are in the way of the second alone. -/
theorem shortcut_shows :
    ((fileOf "x\r\n".toUTF8).write ⟨1, ["a"]⟩ "x\n" { skipUnchanged := true }).result =
        .ok false ∧
      ((fileOf "x\r\n".toUTF8).write ⟨1, ["a"]⟩ "x\n" { skipUnchanged := false }).result =
        .ok true ∧
      ((fileOf "x\r\n".toUTF8).write ⟨1, ["a"]⟩ "x\n" { skipUnchanged := true }).tree.node? ["a"] ≠
        ((fileOf "x\r\n".toUTF8).write ⟨1, ["a"]⟩ "x\n"
          { skipUnchanged := false }).tree.node? ["a"] ∧
      ((fileOf ⟨#[0xff]⟩).write ⟨1, ["a"]⟩ "x\n" { skipUnchanged := true }).result =
        .error .undecodable ∧
      ((fileOf ⟨#[0xff]⟩).write ⟨1, ["a"]⟩ "x\n" { skipUnchanged := false }).result = .ok true ∧
      ((fileOf "x".toUTF8).write ⟨1, ["a"]⟩ "x"
        { skipUnchanged := true, mode := some 2147483648 }).result = .ok false ∧
      ((fileOf "x".toUTF8).write ⟨1, ["a"]⟩ "x"
        { skipUnchanged := false, mode := some 2147483648 }).result = .error .modeOutOfRange := by
  decide

end FileTree

end EngineBindings
