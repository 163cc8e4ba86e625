/-
  EngineBindings/Proofs/Emission/Constants.lean
  =============================================
  **Which constants a type declares.**

  The constants of a type are read off its lines (`constantOf?`).  In the text of an enum by the
  template of the package they are the identifiers of the enumerators in order and, for a
  bitfield, the zero constant (`constantsOf_lines`).  Every other line parts from a constant in
  its first characters, whatever the name of the enum is.

  No keyword of Rust is declared.  The zero constant is declared by no enumerator, since no
  accepted bitfield has one of its name.  But a keyword takes an underscore, and an enumerator
  that ends in this underscore keeps its name, so the two are declared under one name
  (`constants_declared_once_iff`).
-/
import EngineBindings.Proofs.Emission.ModuleText

namespace EngineBindings

/-! ### Constants in texts -/

/-- The name of the constant that a line declares: what stands between `pub const` and a colon. -/
def constantOf? (line : List Char) : Option String :=
  (Text.afterChars? "pub const ".toList (line.dropWhile (· = ' '))).bind fun rest =>
    (Text.cutChars? ':' rest).map fun (name, _) => String.ofList name

def constantsOf (lines : List String) : List String :=
  lines.filterMap fun line => constantOf? line.toList

def declaredConstants (text : String) : List String :=
  (text.toList.splitOn '\n').filterMap constantOf?

namespace Template

theorem splitOn_ofLines {lines : List String} (hlines : lines.all isLine = true) :
    (ofLines lines).toList.splitOn '\n' = lines.map String.toList ++ [[]] := by
  induction lines with
  | nil => rfl
  | cons line rest ih =>
    rw [List.all_cons, Bool.and_eq_true] at hlines
    have hchars : (ofLines (line :: rest)).toList = line.toList ++ '\n' :: (ofLines rest).toList := by
      rw [ofLines_cons, String.toList_append, String.toList_append]
      rfl
    rw [hchars, List.splitOn_append_cons_self_of_not_mem (isLine_iff.mp hlines.1), ih hlines.2]
    rfl

theorem declaredConstants_ofLines {lines : List String} (hlines : lines.all isLine = true) :
    declaredConstants (ofLines lines) = constantsOf lines := by
  unfold declaredConstants constantsOf
  rw [splitOn_ofLines hlines, List.filterMap_append, List.filterMap_map]
  have hend : constantOf? [] = none := rfl
  simp [hend]

/-- A line that parts from the beginning of a constant in its first characters declares none,
    whatever comes after them. -/
theorem constantOf?_append {front : String} (hfirst : front.toList.head?.any (· ≠ ' ') = true)
    (hother : ¬ "pub const ".toList <+: front.toList)
    (hother' : ¬ front.toList <+: "pub const ".toList) (middle back : String) :
    constantOf? (front ++ middle ++ back).toList = none := by
  have hkept : (front ++ middle ++ back).toList.dropWhile (· = ' ') =
      front.toList ++ (middle ++ back).toList := by
    rw [String.append_assoc, String.toList_append]
    cases hchars : front.toList with
    | nil =>
      rw [hchars] at hfirst
      cases hfirst
    | cons c chars =>
      rw [hchars] at hfirst
      have hc : c ≠ ' ' := by simpa using hfirst
      simp [hc]
  unfold constantOf?
  rw [hkept]
  cases hafter : Text.afterChars? "pub const ".toList
      (front.toList ++ (middle ++ back).toList) with
  | none => rfl
  | some more =>
    have hstart : "pub const ".toList <+: front.toList ++ (middle ++ back).toList :=
      ⟨more, ((Text.afterChars?_eq_some_iff _ _ _).mp hafter).symm⟩
    rcases List.prefix_or_prefix_of_prefix hstart (List.prefix_append _ _) with hpre | hpre
    · exact absurd hpre hother
    · exact absurd hpre hother'

theorem constantOf?_constantLine {constant : String × Int}
    (hword : Naming.isWord constant.1 = true) :
    constantOf? (constantLine constant).toList = some constant.1 := by
  obtain ⟨front, hline, hcut⟩ := cut?_constantLine hword
  obtain ⟨⟨name, more⟩, hchars, hparts⟩ := Option.map_eq_some_iff.mp hcut
  have hblanks : "    pub const ".toList = ' ' :: ' ' :: ' ' :: ' ' :: "pub const ".toList := by
    decide
  have hkept : (constantLine constant).toList.dropWhile (· = ' ') =
      "pub const ".toList ++ front.toList := by
    rw [hline, String.toList_append, hblanks]
    rfl
  unfold constantOf?
  rw [hkept, (Text.afterChars?_eq_some_iff _ _ _).mpr rfl, Option.bind_some, hchars,
    Option.map_some]
  exact congrArg some (Prod.mk.inj hparts).1

theorem constantsOf_eq_nil_iff {lines : List String} :
    constantsOf lines = [] ↔ ∀ line ∈ lines, constantOf? line.toList = none :=
  List.filterMap_eq_nil_iff

theorem constantsOf_cons_none {line : String} (hnone : constantOf? line.toList = none)
    (rest : List String) : constantsOf (line :: rest) = constantsOf rest :=
  List.filterMap_cons_none hnone

theorem constantsOf_cons_some {line name : String} (hsome : constantOf? line.toList = some name)
    (rest : List String) : constantsOf (line :: rest) = name :: constantsOf rest :=
  List.filterMap_cons_some hsome

theorem constantsOf_append (front back : List String) :
    constantsOf (front ++ back) = constantsOf front ++ constantsOf back :=
  List.filterMap_append

theorem constantOf?_impl (ident : String) :
    constantOf? ("impl " ++ ident ++ " \x7b").toList = none :=
  constantOf?_append (by decide) (by decide) (by decide) ident _

theorem constantsOf_typeLines (ident : String) : constantsOf (typeLines ident) = [] := by
  have hstruct : constantOf? ("pub struct " ++ ident ++ " \x7b").toList = none :=
    constantOf?_append (by decide) (by decide) (by decide) ident _
  rw [constantsOf_eq_nil_iff]
  unfold typeLines
  simp only [List.forall_mem_cons, hstruct, constantOf?_impl, true_and]
  decide +kernel

theorem constantsOf_closingLines (ident : String) : constantsOf (closingLines ident) = [] := by
  have himpl : constantOf? ("impl sys::GodotFfi for " ++ ident ++ " \x7b").toList = none :=
    constantOf?_append (by decide) (by decide +kernel) (by decide +kernel) ident _
  rw [constantsOf_eq_nil_iff]
  unfold closingLines
  simp only [List.forall_mem_cons, himpl, true_and]
  decide +kernel

/-- The zero constant is the one constant among the lines that only a bitfield has. -/
theorem constantsOf_bitLines (ident : String) : constantsOf (bitLines ident) = ["UNSET"] := by
  have hoperator : constantOf? ("impl std::ops::BitOr for " ++ ident ++ " \x7b").toList = none :=
    constantOf?_append (by decide) (by decide +kernel) (by decide +kernel) ident _
  have hzero : constantOf? "    pub const UNSET: Self = Self \x7b ord: 0 \x7d;".toList =
      some "UNSET" := by decide +kernel
  unfold bitLines
  rw [constantsOf_cons_none (constantOf?_impl ident), constantsOf_cons_some hzero,
    List.cons_inj_right, constantsOf_eq_nil_iff]
  simp only [List.forall_mem_cons, hoperator, true_and]
  decide +kernel

theorem constantsOf_lines {outline : Outline}
    (hwords : ∀ constant ∈ outline.constants, Naming.isWord constant.1 = true) :
    constantsOf outline.lines =
      outline.constants.map Prod.fst ++ if outline.isBitfield then ["UNSET"] else [] := by
  have hconstants : constantsOf (outline.constants.map constantLine) =
      outline.constants.map Prod.fst := by
    unfold constantsOf
    rw [List.filterMap_map, ← List.filterMap_eq_map]
    apply List.filterMap_congr
    intro constant hconstant
    exact constantOf?_constantLine (hwords constant hconstant)
  unfold Outline.lines
  rw [constantsOf_append, constantsOf_append, constantsOf_append, constantsOf_typeLines, hconstants,
    constantsOf_closingLines, List.nil_append, List.nil_append]
  split
  · rw [constantsOf_bitLines]
  · rfl

end Template

/-! ### Constants of accepted enums -/

namespace Emitter

theorem valuesNamedByTexts_of_names {declaration : Enum.Declaration} {names : List String}
    (hnames : declaration.values.map (·.name) = names.map .string) :
    declaration.ValuesNamedByTexts := by
  intro v hv
  have hmem : v.name ∈ names.map Json.string := by
    rw [← hnames]
    exact List.mem_map_of_mem hv
  obtain ⟨name, -, hname⟩ := List.mem_map.mp hmem
  exact ⟨name, hname.symm⟩

theorem outline_constants_of_names {declaration : Enum.Declaration} {definition : Enum.Definition}
    {names : List String} (hnames : declaration.values.map (·.name) = names.map .string)
    (hmade : Enum.Definition.ofDeclaration declaration = .ok definition) :
    definition.outline.constants.map Prod.fst = names.map Naming.rustIdent := by
  have hshown := congrArg (List.map fun name => Naming.rustIdent name.display) hnames
  rw [List.map_map, List.map_map] at hshown
  rw [Enum.Definition.outline_of_declaration hmade, List.map_map]
  exact hshown

/-- What an outline of words declares. -/
theorem declares_of_outline (outline : Template.Outline) {names : List String}
    (hidents : ∀ name ∈ names, Naming.isIdentifier name = true)
    (hconstants : outline.constants.map Prod.fst = names.map Naming.rustIdent) :
    constantsOf outline.lines =
        names.map Naming.rustIdent ++ (if outline.isBitfield then ["UNSET"] else []) ∧
      ('\n' ∉ outline.ident.toList →
        declaredConstants (Template.ofLines outline.lines) = constantsOf outline.lines) := by
  have hwords : ∀ constant ∈ outline.constants, Naming.isWord constant.1 = true := by
    intro constant hconstant
    have hmem : constant.1 ∈ names.map Naming.rustIdent := by
      rw [← hconstants]
      exact List.mem_map_of_mem hconstant
    obtain ⟨name, hname, hident⟩ := List.mem_map.mp hmem
    have hword := hidents name hname
    rw [Naming.isIdentifier, Bool.and_eq_true] at hword
    rw [← hident]
    exact Naming.isWord_rustIdent hword.1
  constructor
  · rw [Template.constantsOf_lines hwords, hconstants]
  · intro hline
    apply Template.declaredConstants_ofLines
    apply Template.Outline.all_isLine (Template.isLine_iff.mpr hline)
    intro constant hconstant
    exact Template.isLine_of_isWord (hwords constant hconstant)

theorem nodup_constants_iff {declaration : Enum.Declaration} {names : List String}
    (hnames : declaration.values.map (·.name) = names.map .string) (hdistinct : names.Nodup)
    (hfree : declaration.isBitfield = true →
      ∀ v ∈ declaration.values, v.name ≠ .string Enum.zeroName) :
    (names.map Naming.rustIdent ++ if declaration.isBitfield then ["UNSET"] else []).Nodup ↔
      ∀ word ∈ Naming.reservedWords, word ∈ names → word ++ "_" ∉ names := by
  rw [← Naming.nodup_map_rustIdent_iff hdistinct]
  split
  · rename_i hbits
    rw [List.nodup_append, and_iff_left]
    refine ⟨List.nodup_singleton _, ?_⟩
    -- an enumerator declared as the zero constant would have its name, which is refused
    intro constant hconstant zero hzero heq
    obtain ⟨name, hname, rfl⟩ := List.mem_map.mp hconstant
    rw [List.mem_singleton.mp hzero] at heq
    have hmem : Json.string "UNSET" ∈ declaration.values.map (·.name) := by
      rw [hnames, ← Naming.rustIdent_eq_zeroName heq]
      exact List.mem_map_of_mem hname
    obtain ⟨v, hv, hvalue⟩ := List.mem_map.mp hmem
    exact hfree hbits v hv hvalue
  · rw [List.append_nil]

/-- An accepted enum whose enumerators have distinct identifiers as names declares each of its
    constants once, the zero constant of a bitfield included, exactly when none of its
    enumerators is called as a keyword of Rust with an underscore while another one is called by
    the keyword.  It declares no keyword in any case.  The constants are those of the lines of
    the template; a text whose type is named in one line has no others. -/
theorem constants_declared_once_iff (emitter : Emitter) (tree : FileTree)
    (hreads : emitter.ReadsPackage tree) (entry : Json) (declaration : Enum.Declaration)
    (names : List String) (hread : Enum.Declaration.ofJson entry = .ok declaration)
    (hnames : declaration.values.map (·.name) = names.map .string) (hdistinct : names.Nodup)
    (hidents : ∀ name ∈ names, Naming.isIdentifier name = true) :
    ∃ definition, Enum.Definition.ofDeclaration declaration = .ok definition ∧
      ((∃ text, emitter.enumText tree definition = .ok text) ↔ declaration.name.isKey = true) ∧
      ∀ text, emitter.enumText tree definition = .ok text →
        ∃ outline : Template.Outline, text = Template.ofLines outline.lines ∧
          (∀ name, declaration.name = .string name → outline.ident = Naming.rustIdent name) ∧
          ('\n' ∉ outline.ident.toList → declaredConstants text = constantsOf outline.lines) ∧
          constantsOf outline.lines =
            names.map Naming.rustIdent ++ (if declaration.isBitfield then ["UNSET"] else []) ∧
          ((constantsOf outline.lines).Nodup ↔
            ∀ word ∈ Naming.reservedWords, word ∈ names → word ++ "_" ∉ names) ∧
          ∀ constant ∈ constantsOf outline.lines, constant ∉ Naming.reservedWords := by
  have htexts := valuesNamedByTexts_of_names hnames
  have hmade := Enum.Definition.ofDeclaration_eq_ok hread htexts
  refine ⟨_, hmade, ?_⟩
  rcases hreads.enumText_of_values htexts hmade with
    ⟨hkey, hnone⟩ | ⟨hkey, ident, htext, hident⟩
  · -- no set holds the name, so the text breaks off before the first constant
    rw [hkey, hnone]
    refine ⟨⟨nofun, nofun⟩, nofun⟩
  · obtain ⟨hlines, hdeclared⟩ := declares_of_outline
      { (Enum.Definition.declared declaration).outline with ident } hidents
      (outline_constants_of_names hnames hmade)
    refine ⟨⟨fun _ => hkey, fun _ => ⟨_, htext⟩⟩, ?_⟩
    intro text hother
    refine ⟨_, Except.ok.inj (hother.symm.trans htext), hident, ?_, hlines, ?_, ?_⟩
    · rw [Except.ok.inj (hother.symm.trans htext)]
      exact hdeclared
    · rw [hlines]
      exact nodup_constants_iff hnames hdistinct
        (Enum.Declaration.zero_free_of_ofJson hread)
    · intro constant hconstant
      rw [hlines, List.mem_append] at hconstant
      rcases hconstant with hname | hzero
      · obtain ⟨name, -, rfl⟩ := List.mem_map.mp hname
        exact Naming.rustIdent_not_reserved name
      · split at hzero
        · rw [List.mem_singleton.mp hzero]
          decide +kernel
        · cases hzero

def pairEntry (isBitfield : Bool) (first second : String) : Json :=
  .object [("name", .string "E"), ("is_bitfield", .bool isBitfield), ("values", .array
    [.object [("name", .string first), ("value", .int 0)],
     .object [("name", .string second), ("value", .int 1)]])]

theorem fits_zero : Enum.Fits 0 := by
  decide

theorem fits_one : Enum.Fits 1 := by
  decide

def pairDeclaration (isBitfield : Bool) (first second : String) : Enum.Declaration :=
  ⟨.string "E", [⟨.string first, 0, fits_zero⟩, ⟨.string second, 1, fits_one⟩], isBitfield⟩

/-- A keyword is declared under its identifier, next to another enumerator and the zero
    constant. -/
theorem flag_pair_declared_once :
    ∃ definition text,
      Enum.Definition.ofDeclaration (pairDeclaration true "type" "kind") = .ok definition ∧
        packageEmitter.enumText smallSession.tree definition = .ok text ∧
        declaredConstants text = ["type_", "kind", "UNSET"] ∧ (declaredConstants text).Nodup := by
  have hpackage : packageEmitter.UsesPackageModules := ⟨usesPackage_packageEmitter, rfl⟩
  obtain ⟨definition, hmade, hexists, hdeclared⟩ := constants_declared_once_iff packageEmitter
    smallSession.tree (hpackage.readsPackage _) (pairEntry true "type" "kind")
    (pairDeclaration true "type" "kind") ["type", "kind"] rfl rfl (by decide) (by decide)
  obtain ⟨text, htext⟩ := hexists.mpr rfl
  obtain ⟨outline, -, hident, hread, hconstants, hnodup, -⟩ := hdeclared text htext
  have hline : '\n' ∉ outline.ident.toList := by
    rw [hident "E" rfl]
    decide
  rw [← hread hline] at hconstants hnodup
  exact ⟨definition, text, hmade, htext, hconstants, hnodup.mpr (by decide)⟩

/-- Two enumerators with distinct identifiers as names, the keyword `type` and `type_`, are
    declared as one constant. -/
theorem keyword_pair_declared_twice :
    ∃ definition text,
      Enum.Declaration.ofJson (pairEntry false "type" "type_") =
          .ok (pairDeclaration false "type" "type_") ∧
        (pairDeclaration false "type" "type_").values.map (·.name) =
          ["type", "type_"].map .string ∧
        ["type", "type_"].Nodup ∧
        (∀ name ∈ ["type", "type_"], Naming.isIdentifier name = true) ∧
        Enum.Definition.ofDeclaration (pairDeclaration false "type" "type_") = .ok definition ∧
        packageEmitter.enumText smallSession.tree definition = .ok text ∧
        declaredConstants text = ["type_", "type_"] := by
  have hpackage : packageEmitter.UsesPackageModules := ⟨usesPackage_packageEmitter, rfl⟩
  have hreads := hpackage.readsPackage smallSession.tree
  have hnames : (pairDeclaration false "type" "type_").values.map (·.name) =
      ["type", "type_"].map .string := rfl
  have hidents : ∀ name ∈ ["type", "type_"], Naming.isIdentifier name = true := by decide
  have hmade : Enum.Definition.ofDeclaration (pairDeclaration false "type" "type_") =
      .ok (Enum.Definition.declared (pairDeclaration false "type" "type_")) := rfl
  have htext := hreads.enumText_eq_ok ⟨⟨"E", rfl⟩, valuesNamedByTexts_of_names hnames⟩ hmade
  obtain ⟨hlines, hread⟩ := declares_of_outline _ hidents
    (outline_constants_of_names hnames hmade)
  refine ⟨_, _, rfl, hnames, by decide, hidents, hmade, htext, ?_⟩
  rw [hread (by decide), hlines]
  decide

end Emitter

end EngineBindings
