/-
  EngineBindings/Proofs/Emission/ModuleText.lean
  ==============================================
  **A module tells what it was written from.**

  With the templates of the package the text of a module is the text of lines that depend on
  the owner and on the outlines of the enums alone (`moduleText_of_package`).  The other way
  round, the lines tell the owner and the outlines (`moduleLines_injective`): every line of a
  constant can be read back (`constantLine_injective`), the first line after the constants is
  none of them (`constants_injective`), and an empty line after a type says that nothing else
  belongs to it (`lines_injective`).

  So a file that is left alone because its text is the same is one whose owner and enums are
  the same (`moduleText_eq_iff`).
-/
import EngineBindings.Proofs.Emission.ClosedForm

namespace EngineBindings

/-! ### Lines in texts -/

namespace Template

def isLine (text : String) : Bool :=
  text.toList.all (· ≠ '\n')

theorem isLine_append (front back : String) :
    isLine (front ++ back) = (isLine front && isLine back) := by
  unfold isLine
  rw [String.toList_append, List.all_append]

theorem isLine_iff {text : String} : isLine text = true ↔ '\n' ∉ text.toList := by
  unfold isLine
  rw [List.all_eq_true]
  constructor
  · intro hall hmem
    simpa using hall '\n' hmem
  · intro hplain c hc
    rw [decide_eq_true_eq]
    rintro rfl
    exact hplain hc

theorem isLine_of_isWord {name : String} (hword : Naming.isWord name = true) :
    isLine name = true :=
  isLine_iff.mpr (Naming.not_mem_of_isWord hword (by decide))

theorem isLine_toString (value : Int) : isLine (toString value) = true := by
  have hdigits : ∀ n : Nat, isLine n.repr = true := by
    intro n
    rw [isLine_iff, Nat.toList_repr]
    intro hmem
    exact absurd (Nat.isDigit_of_mem_toDigits (by decide) (by decide) hmem) (by decide)
  cases value with
  | ofNat n => exact hdigits n
  | negSucc n =>
    change isLine ("-" ++ (n + 1).repr) = true
    rw [isLine_append, hdigits]
    decide

/-- The first line of a text can be read back. -/
theorem cut?_ofLines_cons {line : String} (hline : isLine line = true) (rest : List String) :
    Text.cut? '\n' (ofLines (line :: rest)) = some (line, ofLines rest) := by
  rw [ofLines_cons, ← String.append_assoc]
  exact Text.cut?_append rfl (isLine_iff.mp hline)

theorem ofLines_injective {first second : List String} (hfirst : first.all isLine = true)
    (hsecond : second.all isLine = true) (hsame : ofLines first = ofLines second) :
    first = second := by
  induction first generalizing second with
  | nil =>
    cases second with
    | nil => rfl
    | cons line rest =>
      rw [List.all_cons, Bool.and_eq_true] at hsecond
      have hread := cut?_ofLines_cons hsecond.1 rest
      rw [← hsame] at hread
      cases hread
  | cons line rest ih =>
    rw [List.all_cons, Bool.and_eq_true] at hfirst
    have hread := cut?_ofLines_cons hfirst.1 rest
    cases second with
    | nil =>
      rw [hsame] at hread
      cases hread
    | cons other more =>
      rw [List.all_cons, Bool.and_eq_true] at hsecond
      rw [hsame, cut?_ofLines_cons hsecond.1 more, Option.some_inj, Prod.mk.injEq] at hread
      rw [hread.1, ih hfirst.2 hsecond.2 hread.2.symm]

/-! ### Outlines from lines -/

structure Outline.ByWords (outline : Outline) : Prop where
  ident : Naming.isWord outline.ident = true
  constants : ∀ constant ∈ outline.constants, Naming.isWord constant.1 = true

/-- The identifier of a constant ends at the first colon of its line. -/
theorem cut?_constantLine {constant : String × Int} (hword : Naming.isWord constant.1 = true) :
    ∃ front, constantLine constant = "    pub const " ++ front ∧
      Text.cut? ':' front =
        some (constant.1, " Self = Self \x7b ord: " ++ (toString constant.2 ++ " \x7d;")) := by
  have hcolon : ": Self = Self \x7b ord: " = ":" ++ " Self = Self \x7b ord: " := by simp
  refine ⟨constant.1 ++ ":" ++ (" Self = Self \x7b ord: " ++ (toString constant.2 ++ " \x7d;")),
    ?_, Text.cut?_append rfl (Naming.not_mem_of_isWord hword (by decide))⟩
  unfold constantLine
  rw [hcolon]
  simp only [String.append_assoc]

theorem constantLine_injective {first second : String × Int}
    (hfirst : Naming.isWord first.1 = true) (hsecond : Naming.isWord second.1 = true)
    (hsame : constantLine first = constantLine second) : first = second := by
  obtain ⟨front, hline, hcut⟩ := cut?_constantLine hfirst
  obtain ⟨other, hline', hcut'⟩ := cut?_constantLine hsecond
  rw [hline, hline', String.append_right_inj] at hsame
  rw [hsame, hcut', Option.some_inj, Prod.mk.injEq, String.append_right_inj,
    String.append_left_inj] at hcut
  exact Prod.ext hcut.1.symm (Int.repr_injective hcut.2.symm)

theorem constantLine_ne_brace (constant : String × Int) : constantLine constant ≠ "\x7d" := by
  intro heq
  have hchars := congrArg String.toList heq
  unfold constantLine at hchars
  rw [String.toList_append, String.toList_append, String.toList_append, String.toList_append]
    at hchars
  have hhead : some ' ' = some '\x7d' := congrArg List.head? hchars
  exact absurd hhead (by decide)

/-- The constants end at the first line that closes the type. -/
theorem constants_injective {first second : List (String × Int)} {rest more : List String}
    (hfirst : ∀ constant ∈ first, Naming.isWord constant.1 = true)
    (hsecond : ∀ constant ∈ second, Naming.isWord constant.1 = true)
    (hsame : first.map constantLine ++ "\x7d" :: rest =
      second.map constantLine ++ "\x7d" :: more) : first = second ∧ rest = more := by
  induction first generalizing second with
  | nil =>
    cases second with
    | nil => exact ⟨rfl, (List.cons.inj hsame).2⟩
    | cons constant second => exact absurd (List.cons.inj hsame).1.symm (constantLine_ne_brace _)
  | cons constant first ih =>
    cases second with
    | nil => exact absurd (List.cons.inj hsame).1 (constantLine_ne_brace _)
    | cons other second =>
      obtain ⟨hline, hlines⟩ := List.cons.inj hsame
      have hconstant := constantLine_injective (hfirst _ List.mem_cons_self)
        (hsecond _ List.mem_cons_self) hline
      obtain ⟨hconstants, hrest⟩ := ih
        (fun c hc => hfirst c (List.mem_cons_of_mem _ hc))
        (fun c hc => hsecond c (List.mem_cons_of_mem _ hc)) hlines
      exact ⟨by rw [hconstant, hconstants], hrest⟩

/-- Lines that do not go on with what stands before them: none, or an empty line first. -/
def Apart (lines : List String) : Prop :=
  ∀ line ∈ lines.head?, line = ""

theorem not_apart_bitLines (ident : String) (rest : List String) :
    ¬ Apart (bitLines ident ++ rest) := by
  intro hapart
  have hempty := congrArg String.toList (hapart ("impl " ++ ident ++ " \x7b") rfl)
  rw [String.toList_append, String.toList_append] at hempty
  have hhead : some 'i' = none := congrArg List.head? hempty
  cases hhead

theorem typeLines_injective {ident other : String} {rest more : List String}
    (hsame : typeLines ident ++ rest = typeLines other ++ more) : ident = other ∧ rest = more := by
  have hstruct : some ("pub struct " ++ ident ++ " \x7b") =
      some ("pub struct " ++ other ++ " \x7b") := congrArg (fun lines => lines[2]?) hsame
  rw [Option.some_inj, String.append_left_inj, String.append_right_inj] at hstruct
  rw [hstruct] at hsame
  exact ⟨hstruct, List.append_cancel_left hsame⟩

theorem lines_append (outline : Outline) (rest : List String) :
    outline.lines ++ rest = typeLines outline.ident ++ (outline.constants.map constantLine ++
      "\x7d" :: ((closingLines outline.ident).tail ++
        ((if outline.isBitfield then bitLines outline.ident else []) ++ rest))) := by
  unfold Outline.lines
  rw [List.append_assoc, List.append_assoc, List.append_assoc]
  rfl

theorem lines_injective {first second : Outline} {rest more : List String}
    (hfirst : first.ByWords) (hsecond : second.ByWords) (hrest : Apart rest) (hmore : Apart more)
    (hsame : first.lines ++ rest = second.lines ++ more) : first = second ∧ rest = more := by
  rw [lines_append, lines_append] at hsame
  obtain ⟨hident, hlines⟩ := typeLines_injective hsame
  obtain ⟨hconstants, hclosing⟩ :=
    constants_injective hfirst.constants hsecond.constants hlines
  rw [hident] at hclosing
  have hbits := List.append_cancel_left hclosing
  obtain ⟨ident, constants, isBitfield⟩ := first
  obtain ⟨other, others, isBitfield'⟩ := second
  dsimp only at hident hconstants hbits
  rw [hident, hconstants]
  -- what follows says whether there are lines of a bitfield
  cases isBitfield with
  | false =>
    cases isBitfield' with
    | false => exact ⟨rfl, hbits⟩
    | true =>
      change rest = bitLines other ++ more at hbits
      rw [hbits] at hrest
      exact absurd hrest (not_apart_bitLines _ _)
  | true =>
    cases isBitfield' with
    | false =>
      change bitLines other ++ rest = more at hbits
      rw [← hbits] at hmore
      exact absurd hmore (not_apart_bitLines _ _)
    | true => exact ⟨rfl, List.append_cancel_left hbits⟩

def blockLines (outlines : List Outline) : List String :=
  outlines.flatMap fun outline => "" :: outline.lines

theorem apart_blockLines (outlines : List Outline) : Apart (blockLines outlines) := by
  cases outlines with
  | nil => nofun
  | cons outline rest =>
    intro line hline
    exact (Option.some.inj hline).symm

theorem blockLines_injective {first second : List Outline}
    (hfirst : ∀ outline ∈ first, outline.ByWords) (hsecond : ∀ outline ∈ second, outline.ByWords)
    (hsame : blockLines first = blockLines second) : first = second := by
  induction first generalizing second with
  | nil =>
    cases second with
    | nil => rfl
    | cons outline second => cases hsame
  | cons outline first ih =>
    cases second with
    | nil => cases hsame
    | cons other second =>
      have hlines : outline.lines ++ blockLines first = other.lines ++ blockLines second :=
        (List.cons.inj hsame).2
      obtain ⟨houtline, hrest⟩ := lines_injective (hfirst _ List.mem_cons_self)
        (hsecond _ List.mem_cons_self) (apart_blockLines _) (apart_blockLines _) hlines
      rw [houtline, ih (fun o ho => hfirst o (List.mem_cons_of_mem _ ho))
        (fun o ho => hsecond o (List.mem_cons_of_mem _ ho)) hrest]

theorem moduleLines_injective {owner other : String} {first second : List Outline}
    (hfirst : ∀ outline ∈ first, outline.ByWords) (hsecond : ∀ outline ∈ second, outline.ByWords)
    (hsame : moduleLines owner first = moduleLines other second) :
    owner = other ∧ first = second := by
  have howner : some ("// Enums of " ++ owner ++ ".") = some ("// Enums of " ++ other ++ ".") :=
    congrArg (fun lines => lines[1]?) hsame
  rw [Option.some_inj, String.append_left_inj, String.append_right_inj] at howner
  rw [howner] at hsame
  exact ⟨howner, blockLines_injective hfirst hsecond (List.append_cancel_left hsame)⟩

/-! ### Lines of words -/

theorem all_isLine_typeLines {ident : String} (hident : isLine ident = true) :
    (typeLines ident).all isLine = true := by
  unfold typeLines
  simp only [List.all_cons, List.all_nil, isLine_append, hident]
  decide +kernel

theorem isLine_constantLine {constant : String × Int} (hname : isLine constant.1 = true) :
    isLine (constantLine constant) = true := by
  unfold constantLine
  simp only [isLine_append, hname, isLine_toString]
  decide +kernel

theorem all_isLine_closingLines {ident : String} (hident : isLine ident = true) :
    (closingLines ident).all isLine = true := by
  unfold closingLines
  simp only [List.all_cons, List.all_nil, isLine_append, hident]
  decide +kernel

theorem all_isLine_bitLines {ident : String} (hident : isLine ident = true) :
    (bitLines ident).all isLine = true := by
  unfold bitLines
  simp only [List.all_cons, List.all_nil, isLine_append, hident]
  decide +kernel

theorem Outline.all_isLine {outline : Outline} (hident : isLine outline.ident = true)
    (hnames : ∀ constant ∈ outline.constants, isLine constant.1 = true) :
    outline.lines.all isLine = true := by
  have hconstants : (outline.constants.map constantLine).all isLine = true := by
    rw [List.all_map, List.all_eq_true]
    intro constant hconstant
    exact isLine_constantLine (hnames constant hconstant)
  have hbits : (if outline.isBitfield then bitLines outline.ident else []).all isLine = true := by
    split
    · exact all_isLine_bitLines hident
    · rfl
  unfold Outline.lines
  rw [List.all_append, List.all_append, List.all_append, all_isLine_typeLines hident, hconstants,
    all_isLine_closingLines hident, hbits]
  rfl

theorem Outline.ByWords.all_isLine {outline : Outline} (hwords : outline.ByWords) :
    outline.lines.all isLine = true := by
  apply Outline.all_isLine (isLine_of_isWord hwords.ident)
  intro constant hconstant
  exact isLine_of_isWord (hwords.constants constant hconstant)

theorem all_isLine_moduleLines {owner : String} {outlines : List Outline}
    (howner : isLine owner = true) (hwords : ∀ outline ∈ outlines, outline.ByWords) :
    (moduleLines owner outlines).all isLine = true := by
  have hheader : (headerLines owner).all isLine = true := by
    unfold headerLines
    simp only [List.all_cons, List.all_nil, isLine_append, howner]
    decide +kernel
  have hblocks : (blockLines outlines).all isLine = true := by
    unfold blockLines
    rw [List.all_flatMap, List.all_eq_true]
    intro outline houtline
    rw [List.all_cons, (hwords outline houtline).all_isLine]
    rfl
  unfold moduleLines
  rw [List.all_append, hheader]
  exact hblocks

end Template

/-! ### Modules -/

namespace Enum

structure Declaration.NamedByWords (declaration : Declaration) : Prop where
  name : ∃ word, declaration.name = .string word ∧ Naming.isWord word = true
  values : ∀ v ∈ declaration.values, ∃ word, v.name = .string word ∧ Naming.isWord word = true

theorem Declaration.NamedByWords.namedByTexts {declaration : Declaration}
    (hwords : declaration.NamedByWords) : declaration.NamedByTexts := by
  constructor
  · obtain ⟨word, hword, -⟩ := hwords.name
    exact ⟨word, hword⟩
  · intro v hv
    obtain ⟨word, hword, -⟩ := hwords.values v hv
    exact ⟨word, hword⟩

def Definition.MadeOfTexts (definition : Definition) : Prop :=
  ∃ declaration, declaration.NamedByTexts ∧ ofDeclaration declaration = .ok definition

def Definition.MadeOfWords (definition : Definition) : Prop :=
  ∃ declaration, declaration.NamedByWords ∧ ofDeclaration declaration = .ok definition

theorem Definition.MadeOfWords.madeOfTexts {definition : Definition}
    (hmade : definition.MadeOfWords) : definition.MadeOfTexts := by
  obtain ⟨declaration, hwords, hdeclared⟩ := hmade
  exact ⟨declaration, hwords.namedByTexts, hdeclared⟩

theorem Definition.MadeOfWords.outline_byWords {definition : Definition}
    (hmade : definition.MadeOfWords) : definition.outline.ByWords := by
  obtain ⟨declaration, hwords, hdeclared⟩ := hmade
  rw [outline_of_declaration hdeclared]
  constructor
  · obtain ⟨word, hname, hword⟩ := hwords.name
    dsimp only
    rw [hname]
    exact Naming.isWord_rustIdent hword
  · intro constant hconstant
    obtain ⟨v, hv, rfl⟩ := List.mem_map.mp hconstant
    obtain ⟨word, hname, hword⟩ := hwords.values v hv
    dsimp only
    rw [hname]
    exact Naming.isWord_rustIdent hword

end Enum

namespace Emitter

/-- With the templates of the package a module is the text of its lines. -/
theorem moduleText_of_package {emitter : Emitter} (hpackage : emitter.UsesPackageModules)
    (tree : FileTree) (owner : String) {definitions : List Enum.Definition}
    (hmade : ∀ definition ∈ definitions, definition.MadeOfTexts) :
    emitter.moduleText tree owner definitions =
      .ok (Template.ofLines (Template.moduleLines owner (definitions.map (·.outline)))) := by
  have hreads := hpackage.readsPackage tree
  have htexts : definitions.mapM (emitter.enumText tree) =
      .ok (definitions.map fun definition => Template.ofLines definition.outline.lines) := by
    apply mapM_eq_ok
    intro definition hmem
    obtain ⟨declaration, hnames, hdeclared⟩ := hmade definition hmem
    exact hreads.enumText_eq_ok hnames hdeclared
  rw [hreads.moduleText_eq, htexts, Template.ofLines_moduleLines, List.map_map]
  change Except.ok (_ ++ String.join (List.map _ (List.map _ definitions))) = _
  rw [List.map_map]
  rfl

/-- With the templates of the package every module of enums that are named by words has a text,
    and two modules have the same text exactly when their owners are the same and their enums
    have the same outlines: the same kinds, identifiers and constants, all in the same order.
    So an API that has changed in any of these is never taken for an unchanged one. -/
theorem moduleText_eq_iff (emitter : Emitter) (hpackage : emitter.UsesPackageModules)
    (tree tree' : FileTree) (owner owner' : String) (first second : List Enum.Definition)
    (howner : '\n' ∉ owner.toList) (howner' : '\n' ∉ owner'.toList)
    (hfirst : ∀ definition ∈ first, definition.MadeOfWords)
    (hsecond : ∀ definition ∈ second, definition.MadeOfWords) :
    (∃ text, emitter.moduleText tree owner first = .ok text) ∧
      (emitter.moduleText tree owner first = emitter.moduleText tree' owner' second ↔
        owner = owner' ∧ first.map (·.outline) = second.map (·.outline)) := by
  have htext := moduleText_of_package hpackage tree owner
    fun definition hmem => (hfirst definition hmem).madeOfTexts
  have htext' := moduleText_of_package hpackage tree' owner'
    fun definition hmem => (hsecond definition hmem).madeOfTexts
  have hwords : ∀ outline ∈ first.map (·.outline), outline.ByWords := by
    intro outline houtline
    obtain ⟨definition, hmem, rfl⟩ := List.mem_map.mp houtline
    exact (hfirst definition hmem).outline_byWords
  have hwords' : ∀ outline ∈ second.map (·.outline), outline.ByWords := by
    intro outline houtline
    obtain ⟨definition, hmem, rfl⟩ := List.mem_map.mp houtline
    exact (hsecond definition hmem).outline_byWords
  refine ⟨⟨_, htext⟩, ?_⟩
  rw [htext, htext']
  constructor
  · intro hsame
    apply Template.moduleLines_injective hwords hwords'
    apply Template.ofLines_injective _ _ (Except.ok.inj hsame)
    · exact Template.all_isLine_moduleLines (Template.isLine_iff.mpr howner) hwords
    · exact Template.all_isLine_moduleLines (Template.isLine_iff.mpr howner') hwords'
  · rintro ⟨rfl, houtlines⟩
    rw [houtlines]

def grownEnum : Enum.Definition :=
  ⟨.string "E", [(.string "A", ⟨.string "E", 7, false, by decide⟩)], false, none, "i32", "i64"⟩

theorem emptyEnum_madeOfWords : emptyEnum.MadeOfWords := by
  refine ⟨⟨.string "E", [], false⟩, ⟨⟨"E", rfl, by decide⟩, ?_⟩, rfl⟩
  intro v hv
  cases hv

theorem grownEnum_madeOfWords : grownEnum.MadeOfWords := by
  refine ⟨⟨.string "E", [⟨.string "A", 7, by decide⟩], false⟩, ⟨⟨"E", rfl, by decide⟩, ?_⟩, rfl⟩
  intro v hv
  rw [List.mem_singleton] at hv
  rw [hv]
  exact ⟨"A", rfl, by decide⟩

/-- The text of a module shows that its enum has grown by a constant. -/
theorem moduleText_of_grown_enum :
    (∃ text, packageEmitter.moduleText smallSession.tree "Node" [emptyEnum] = .ok text) ∧
      packageEmitter.moduleText smallSession.tree "Node" [emptyEnum] ≠
        packageEmitter.moduleText smallSession.tree "Node" [grownEnum] := by
  have hfirst : ∀ definition ∈ [emptyEnum], definition.MadeOfWords := by
    intro definition hmem
    rw [List.mem_singleton.mp hmem]
    exact emptyEnum_madeOfWords
  have hsecond : ∀ definition ∈ [grownEnum], definition.MadeOfWords := by
    intro definition hmem
    rw [List.mem_singleton.mp hmem]
    exact grownEnum_madeOfWords
  obtain ⟨hexists, hiff⟩ := moduleText_eq_iff packageEmitter ⟨usesPackage_packageEmitter, rfl⟩
    smallSession.tree smallSession.tree "Node" "Node" [emptyEnum] [grownEnum] (by decide)
    (by decide) hfirst hsecond
  refine ⟨hexists, ?_⟩
  intro hsame
  exact absurd (hiff.mp hsame).2 (by decide)

end Emitter

end EngineBindings
