/-
  EngineBindings/Proofs/Template/Lines.lean
  =========================================
  **The text of a module line by line.**

  The templates of the package show three things of an enum: its identifier, the identifiers
  and numbers of its constants, and whether it is a bitfield.  This is its outline, and the
  lines of its text are a function of the outline (`fill_enumNodes`).  The lines of a module
  are a header that names the owner and, for each enum, an empty line and the lines of the enum
  (`fill_moduleNodes`).
-/
import EngineBindings.Proofs.Enum.Ordinal
import EngineBindings.Proofs.Enum.Views
import EngineBindings.Proofs.Template.Package

namespace EngineBindings.Template

/-! ### Lines -/

theorem ofLines_nil : ofLines [] = "" := rfl

theorem ofLines_cons (line : String) (rest : List String) :
    ofLines (line :: rest) = line ++ ("\n" ++ ofLines rest) := by
  unfold ofLines
  rw [List.map_cons, String.join_cons, String.append_assoc]

theorem ofLines_append (front back : List String) :
    ofLines (front ++ back) = ofLines front ++ ofLines back := by
  unfold ofLines
  rw [List.map_append, String.join_append]

/-! ### Outlines -/

/-- What the templates of the package show of an enum. -/
structure Outline where
  ident : String
  /-- The constants in order, by their identifiers. -/
  constants : List (String × Int)
  isBitfield : Bool
deriving DecidableEq, Repr

def typeLines (ident : String) : List String :=
  ["#[repr(transparent)]", "#[derive(Copy, Clone, Eq, PartialEq, Debug, Hash)]",
   "pub struct " ++ ident ++ " \x7b", "    ord: i32,", "\x7d", "impl " ++ ident ++ " \x7b",
   "    /// Ordinal value of the enumerator, as specified in Godot.",
   "    /// This is not necessarily unique.", "    pub const fn ord(self) -> i64 \x7b",
   "        self.ord as i64", "    \x7d"]

def constantLine (constant : String × Int) : String :=
  "    pub const " ++ constant.1 ++ ": Self = Self \x7b ord: " ++ toString constant.2 ++ " \x7d;"

def closingLines (ident : String) : List String :=
  ["\x7d", "impl sys::GodotFfi for " ++ ident ++ " \x7b",
   "    sys::ffi_methods! \x7b type sys::GDNativeTypePtr = *mut Self; .. \x7d", "\x7d"]

def bitLines (ident : String) : List String :=
  ["impl " ++ ident ++ " \x7b", "    pub const UNSET: Self = Self \x7b ord: 0 \x7d;", "\x7d",
   "impl std::ops::BitOr for " ++ ident ++ " \x7b", "    type Output = Self;", "",
   "    fn bitor(self, rhs: Self) -> Self::Output \x7b",
   "        Self \x7b ord: self.ord | rhs.ord \x7d", "    \x7d", "\x7d"]

def Outline.lines (outline : Outline) : List String :=
  typeLines outline.ident ++ (outline.constants.map constantLine ++
    (closingLines outline.ident ++ if outline.isBitfield then bitLines outline.ident else []))

/-! ### Texts and lines -/

theorem ofLines_typeLines (ident rest : String) :
    headText ident ++ (" \x7b\n    ord: " ++ ("i32" ++ (",\n\x7d\nimpl " ++ (ident ++
      ((" \x7b\n    /// Ordinal value of the enumerator, as specified in Godot.\n" ++
        "    /// This is not necessarily unique.\n    pub const fn ord(self) -> ") ++ ("i64" ++
          (" \x7b\n        self.ord as " ++ ("i64" ++ ("\n    \x7d\n" ++ rest))))))))) =
      ofLines (typeLines ident) ++ rest := by
  -- the nodes are cut where the template is, the lines at their ends
  have hhead : "#[repr(transparent)]\n#[derive(Copy, Clone, Eq, PartialEq, Debug, Hash)]\npub struct " =
      "#[repr(transparent)]" ++ ("\n" ++ ("#[derive(Copy, Clone, Eq, PartialEq, Debug, Hash)]" ++
        ("\n" ++ "pub struct "))) := by simp
  have hbrace : " \x7b\n    ord: " = " \x7b" ++ ("\n" ++ "    ord: ") := by simp
  have hstored : "    ord: i32," = "    ord: " ++ ("i32" ++ ",") := by simp
  have himpl : ",\n\x7d\nimpl " = "," ++ ("\n" ++ ("\x7d" ++ ("\n" ++ "impl "))) := by
    simp
  have hfirst : " \x7b\n    /// Ordinal value of the enumerator, as specified in Godot.\n" =
      " \x7b" ++ ("\n" ++ ("    /// Ordinal value of the enumerator, as specified in Godot." ++
        "\n")) := by simp
  have hsecond : "    /// This is not necessarily unique.\n    pub const fn ord(self) -> " =
      "    /// This is not necessarily unique." ++ ("\n" ++ "    pub const fn ord(self) -> ") := by
    simp
  have hshown : "    pub const fn ord(self) -> i64 \x7b" =
      "    pub const fn ord(self) -> " ++ ("i64" ++ " \x7b") := by simp
  have hself : " \x7b\n        self.ord as " = " \x7b" ++ ("\n" ++ "        self.ord as ") := by
    simp
  have hvalue : "        self.ord as i64" = "        self.ord as " ++ "i64" := by simp
  have hend : "\n    \x7d\n" = "\n" ++ ("    \x7d" ++ "\n") := by simp
  unfold headText typeLines
  rw [hhead, hbrace, himpl, hfirst, hsecond, hself, hend, hstored, hshown, hvalue]
  simp only [ofLines_cons, ofLines_nil, String.append_assoc, String.empty_append]

theorem ofLines_closingLines (ident rest : String) :
    "\x7d\nimpl sys::GodotFfi for " ++ (ident ++
      (" \x7b\n    sys::ffi_methods! \x7b type sys::GDNativeTypePtr = *mut Self; .. \x7d\n\x7d\n" ++
        rest)) = ofLines (closingLines ident) ++ rest := by
  have himpl : "\x7d\nimpl sys::GodotFfi for " = "\x7d" ++ ("\n" ++ "impl sys::GodotFfi for ") := by
    simp
  have hmethods :
      " \x7b\n    sys::ffi_methods! \x7b type sys::GDNativeTypePtr = *mut Self; .. \x7d\n\x7d\n" =
        " \x7b" ++ ("\n" ++
          ("    sys::ffi_methods! \x7b type sys::GDNativeTypePtr = *mut Self; .. \x7d" ++
            ("\n" ++ ("\x7d" ++ "\n")))) := by simp
  unfold closingLines
  rw [himpl, hmethods]
  simp only [ofLines_cons, ofLines_nil, String.append_assoc, String.empty_append]

theorem ofLines_bitLines (ident : String) :
    "impl " ++ (ident ++ (" \x7b\n    pub const UNSET: Self = Self \x7b ord: " ++ ("0" ++
      (" \x7d;\n\x7d\nimpl std::ops::BitOr for " ++ (ident ++
        ((" \x7b\n    type Output = Self;\n\n    fn bitor(self, rhs: Self) -> Self::Output \x7b\n" ++
          "        Self \x7b ord: self.ord | rhs.ord \x7d\n    \x7d\n\x7d\n") ++ "")))))) =
      ofLines (bitLines ident) := by
  have hunset : " \x7b\n    pub const UNSET: Self = Self \x7b ord: " =
      " \x7b" ++ ("\n" ++ "    pub const UNSET: Self = Self \x7b ord: ") := by simp
  have hzero : "    pub const UNSET: Self = Self \x7b ord: 0 \x7d;" =
      "    pub const UNSET: Self = Self \x7b ord: " ++ ("0" ++ " \x7d;") := by simp
  have himpl : " \x7d;\n\x7d\nimpl std::ops::BitOr for " =
      " \x7d;" ++ ("\n" ++ ("\x7d" ++ ("\n" ++ "impl std::ops::BitOr for "))) := by simp
  have houtput : " \x7b\n    type Output = Self;\n\n    fn bitor(self, rhs: Self) -> Self::Output \x7b\n" =
      " \x7b" ++ ("\n" ++ ("    type Output = Self;" ++ ("\n" ++ ("" ++ ("\n" ++
        ("    fn bitor(self, rhs: Self) -> Self::Output \x7b" ++ "\n")))))) := by simp
  have hbody : "        Self \x7b ord: self.ord | rhs.ord \x7d\n    \x7d\n\x7d\n" =
      "        Self \x7b ord: self.ord | rhs.ord \x7d" ++ ("\n" ++ ("    \x7d" ++ ("\n" ++
        ("\x7d" ++ "\n")))) := by simp
  unfold bitLines
  rw [hunset, hzero, himpl, houtput, hbody]
  simp only [ofLines_cons, ofLines_nil, String.append_assoc, String.empty_append,
    String.append_empty]

theorem ofLines_constantLine (constant : String × Int) :
    "    pub const " ++ (constant.1 ++ (": Self = Self \x7b ord: " ++ (toString constant.2 ++
      (" \x7d;\n" ++ "")))) = ofLines [constantLine constant] := by
  have hend : " \x7d;\n" = " \x7d;" ++ "\n" := by simp
  unfold constantLine
  rw [hend]
  simp only [ofLines_cons, ofLines_nil, String.append_assoc, String.append_empty]

theorem join_map_ofLines {α : Type} (lines : α → List String) (items : List α) :
    String.join (items.map fun item => ofLines (lines item)) = ofLines (items.flatMap lines) := by
  induction items with
  | nil => rfl
  | cons item rest ih =>
    rw [List.map_cons, String.join_cons, ih, List.flatMap_cons, ofLines_append]

end EngineBindings.Template

/-! ### The text of an enum -/

namespace EngineBindings.Enum

structure Declaration.NamedByTexts (declaration : Declaration) : Prop where
  name : ∃ text, declaration.name = .string text
  values : ∀ v ∈ declaration.values, ∃ text, v.name = .string text

def Definition.outline (definition : Definition) : Template.Outline where
  ident := Naming.rustIdent definition.name.display
  constants := definition.enumerators.map fun (name, ordinal) =>
    (Naming.rustIdent name.display, ordinal.value)
  isBitfield := definition.isBitfield

theorem Definition.outline_of_declaration {declaration : Declaration} {definition : Definition}
    (hmade : ofDeclaration declaration = .ok definition) :
    definition.outline = ⟨Naming.rustIdent declaration.name.display,
      declaration.values.map fun v => (Naming.rustIdent v.name.display, v.value),
      declaration.isBitfield⟩ := by
  rw [eq_of_declaration hmade, declared, outline, List.map_map]
  rfl

end EngineBindings.Enum

namespace EngineBindings.Template

def enumeratorJson (name : Json) (value : Int) : Json :=
  .object [("name", name), ("value", .int value)]

theorem renderNodes_constantNodes (scope : Scope) (name : String) (value : Int) :
    renderNodes constantNodes
        (scope.enter [("e", .plain (enumeratorJson (.string name) value))] constantNodes) =
      .ok (ofLines [constantLine (Naming.rustIdent name, value)],
        scope.enter [("e", .plain (enumeratorJson (.string name) value))] constantNodes) := by
  have hplain : Text.decomposed "e" = "e" := Text.decomposed_of_ascii (by simp)
  have hframe : scope.frameOf ["e"] constantNodes = ⟨[("e", .given)], ["e"]⟩ := rfl
  rw [enter_round hplain hframe]
  let round := roundScope scope "e" (.plain (enumeratorJson (.string name) value))
  have hname : evaluate (.field (.name "e") "name") round = .ok (.plain (.string name), round) :=
    evaluate_field (read_roundScope hplain) (by decide) rfl
  have hvalue : evaluate (.field (.name "e") "value") round = .ok (.plain (.int value), round) :=
    evaluate_field (read_roundScope hplain) (by decide) rfl
  have hrow : renderNodes constantNodes round = .ok (String.join ["    pub const ",
      Naming.rustIdent name, ": Self = Self \x7b ord: ", toString value, " \x7d;\n"], round) := by
    apply renderNodes_of_gives
    apply List.Forall₂.cons (gives_text _ _)
    apply List.Forall₂.cons (gives_print (evaluate_rustIdent hname rfl))
    apply List.Forall₂.cons (gives_text _ _)
    apply List.Forall₂.cons (gives_print hvalue)
    apply List.Forall₂.cons (gives_text _ _)
    exact .nil
  rw [hrow, ← ofLines_constantLine]
  simp only [String.join_cons, String.join_nil]
  rfl

section

variable {declaration : Enum.Declaration} {definition : Enum.Definition}

theorem gives_constants {scope : Scope} (hnames : declaration.ValuesNamedByTexts)
    (hmade : Enum.Definition.ofDeclaration declaration = .ok definition)
    (henum : scope.read "enum" = .plain definition.toJson) :
    Gives scope (.loop "e" (enumField "enumerators") constantNodes)
      (ofLines (definition.outline.constants.map constantLine)) := by
  have hvalues : evaluate (enumField "enumerators") scope =
      .ok (.plain (.array (declaration.values.map fun v => enumeratorJson v.name v.value)),
        scope) := by
    apply evaluate_field henum (by decide)
    rw [Enum.Definition.eq_of_declaration hmade, Enum.Definition.declared, List.map_map]
    rfl
  have hunused : usesFirst loopName constantNodes = false := by cbv
  have hlines : ofLines (definition.outline.constants.map constantLine) =
      String.join (declaration.values.map fun v =>
        ofLines [constantLine (Naming.rustIdent v.name.display, v.value)]) := by
    rw [join_map_ofLines, Enum.Definition.outline_of_declaration hmade, List.map_map,
      List.map_eq_flatMap]
    rfl
  rw [hlines]
  apply gives_loop hvalues hunused
  rw [List.forall₂_map_left_iff, List.forall₂_map_right_iff, List.forall₂_same]
  intro v hv
  obtain ⟨name, hname⟩ := hnames v hv
  rw [hname]
  exact renderNodes_constantNodes scope name v.value

/-- The scope of the template after its first statement, which makes the name of the enum the
    value that is shown for it. -/
def namedScope (context : String → Option Value) (definition : Enum.Definition) (shown : Json) :
    Scope :=
  enumScope context (.plain definition.toJson) (some (.plain shown))

theorem evaluate_name_namedScope (context : String → Option Value)
    (definition : Enum.Definition) (shown : Json) :
    evaluate (.name "name") (namedScope context definition shown) =
      .ok (.plain shown, namedScope context definition shown) := by
  rw [evaluate_name, namedScope, read_name]

theorem evaluate_part {context : String → Option Value} {shown : Json} {name : String}
    {value : Json} (hfree : ValueType.dictionary.find? name = none)
    (hget : Dictionary.get? name
      [("name", definition.name), ("is_bitfield", .bool definition.isBitfield),
       ("storage", .string definition.storageType),
       ("public_ord", .string definition.accessorType),
       ("enumerators", .array (definition.enumerators.map fun (name, ordinal) =>
          enumeratorJson name ordinal.value)),
       ("unset", match definition.unset with
          | some zero => .int zero.value
          | none => .null)] = some value) :
    evaluate (enumField name) (namedScope context definition shown) =
      .ok (.plain value, namedScope context definition shown) :=
  evaluate_field (read_enum _ _ _) hfree hget

/-- The nodes of a bitfield, whose zero constant has the number zero. -/
theorem renderNodes_bitNodes {context : String → Option Value} (shown : Json)
    (hmade : Enum.Definition.ofDeclaration declaration = .ok definition)
    (hbits : definition.isBitfield = true) :
    renderNodes bitNodes (namedScope context definition shown) =
      .ok (ofLines (bitLines shown.display), namedScope context definition shown) := by
  have hzero : definition.unset = some (.unset definition.name) := by
    rw [Enum.Definition.eq_of_declaration hmade] at hbits ⊢
    exact if_pos hbits
  have hunset : evaluate (enumField "unset") (namedScope context definition shown) =
      .ok (.plain (.int 0), namedScope context definition shown) := by
    apply evaluate_part (by decide)
    rw [hzero]
    rfl
  have hname := evaluate_name_namedScope context definition shown
  have hrow : renderNodes bitNodes (namedScope context definition shown) = .ok (String.join
      ["impl ", shown.display, " \x7b\n    pub const UNSET: Self = Self \x7b ord: ", "0",
       " \x7d;\n\x7d\nimpl std::ops::BitOr for ", shown.display,
       " \x7b\n    type Output = Self;\n\n    fn bitor(self, rhs: Self) -> Self::Output \x7b\n" ++
         "        Self \x7b ord: self.ord | rhs.ord \x7d\n    \x7d\n\x7d\n"],
      namedScope context definition shown) := by
    apply renderNodes_of_gives
    apply List.Forall₂.cons (gives_text _ _)
    apply List.Forall₂.cons (gives_print hname)
    apply List.Forall₂.cons (gives_text _ _)
    apply List.Forall₂.cons (gives_print hunset)
    apply List.Forall₂.cons (gives_text _ _)
    apply List.Forall₂.cons (gives_print hname)
    apply List.Forall₂.cons (gives_text _ _)
    exact .nil
  rw [hrow, ← ofLines_bitLines]
  simp only [String.join_cons, String.join_nil]

theorem renderNodes_bodyNodes (context : String → Option Value) (shown : Json)
    (hnames : declaration.ValuesNamedByTexts)
    (hmade : Enum.Definition.ofDeclaration declaration = .ok definition) :
    ∃ text, renderNodes bodyNodes (namedScope context definition shown) =
        .ok (text, namedScope context definition shown) ∧
      headText shown.display ++ text =
        ofLines (Outline.lines { definition.outline with ident := shown.display }) := by
  have hname := evaluate_name_namedScope context definition shown
  have hstorage : evaluate (enumField "storage") (namedScope context definition shown) =
      .ok (.plain (.string "i32"), namedScope context definition shown) := by
    apply evaluate_part (by decide)
    rw [Enum.Definition.eq_of_declaration hmade]
    rfl
  have haccessor : evaluate (enumField "public_ord") (namedScope context definition shown) =
      .ok (.plain (.string "i64"), namedScope context definition shown) := by
    apply evaluate_part (by decide)
    rw [Enum.Definition.eq_of_declaration hmade]
    rfl
  have hkind : evaluate (enumField "is_bitfield") (namedScope context definition shown) =
      .ok (.plain (.bool definition.isBitfield), namedScope context definition shown) :=
    evaluate_part (by decide) rfl
  have hrow : renderNodes bodyNodes (namedScope context definition shown) = .ok (String.join
      [" \x7b\n    ord: ", "i32", ",\n\x7d\nimpl ", shown.display,
       " \x7b\n    /// Ordinal value of the enumerator, as specified in Godot.\n" ++
         "    /// This is not necessarily unique.\n    pub const fn ord(self) -> ", "i64",
       " \x7b\n        self.ord as ", "i64", "\n    \x7d\n",
       ofLines (definition.outline.constants.map constantLine),
       "\x7d\nimpl sys::GodotFfi for ", shown.display,
       " \x7b\n    sys::ffi_methods! \x7b type sys::GDNativeTypePtr = *mut Self; .. \x7d\n\x7d\n",
       if definition.isBitfield then ofLines (bitLines shown.display) else "", ""],
      namedScope context definition shown) := by
    apply renderNodes_of_gives
    apply List.Forall₂.cons (gives_text _ _)
    apply List.Forall₂.cons (gives_print hstorage)
    apply List.Forall₂.cons (gives_text _ _)
    apply List.Forall₂.cons (gives_print hname)
    apply List.Forall₂.cons (gives_text _ _)
    apply List.Forall₂.cons (gives_print haccessor)
    apply List.Forall₂.cons (gives_text _ _)
    apply List.Forall₂.cons (gives_print haccessor)
    apply List.Forall₂.cons (gives_text _ _)
    apply List.Forall₂.cons (gives_constants hnames hmade (read_enum _ _ _))
    apply List.Forall₂.cons (gives_text _ _)
    apply List.Forall₂.cons (gives_print hname)
    apply List.Forall₂.cons (gives_text _ _)
    apply List.Forall₂.cons (gives_branch hkind (renderNodes_bitNodes shown hmade))
    apply List.Forall₂.cons (gives_text _ _)
    exact .nil
  refine ⟨_, hrow, ?_⟩
  have hbits : (if definition.isBitfield then ofLines (bitLines shown.display) else "") =
      ofLines (if definition.isBitfield then bitLines shown.display else []) := by
    split
    · rfl
    · rfl
  simp only [String.join_cons, String.join_nil]
  rw [ofLines_typeLines, ofLines_closingLines, hbits, String.append_empty, String.append_empty]
  unfold Outline.lines
  rw [ofLines_append, ofLines_append, ofLines_append]
  rfl

end

/-- The template of an enum writes the lines of its outline, under the name that is shown. -/
theorem fill_enumNodes_of_shown (template : String) {declaration : Enum.Declaration}
    {definition : Enum.Definition} {shown : Json} (hnames : declaration.ValuesNamedByTexts)
    (hmade : Enum.Definition.ofDeclaration declaration = .ok definition)
    (hshown : (Value.plain definition.name).rustIdent = .ok (.plain shown)) :
    fill template enumNodes [("enum", definition.toJson)] =
      .ok (ofLines (Outline.lines { definition.outline with ident := shown.display })) := by
  have hunused : usesFirst selfName enumNodes = false := by cbv
  obtain ⟨text, hbody, htext⟩ :=
    renderNodes_bodyNodes (contextValue? [("enum", definition.toJson)]) shown hnames hmade
  rw [fill_of_unused rfl hunused, enter_enumNodes, enumNodes, renderNodes_headNodes _ hshown]
  change Except.map _ (Except.map _ (renderNodes bodyNodes (namedScope _ definition shown))) = _
  rw [hbody, ← htext]
  rfl

/-- An enum that is named by no key of a set has no text. -/
theorem fill_enumNodes_of_error (template : String) {definition : Enum.Definition} {cause : Error}
    (hrefused : (Value.plain definition.name).rustIdent = .error cause) :
    fill template enumNodes [("enum", definition.toJson)] = .error cause := by
  have hunused : usesFirst selfName enumNodes = false := by cbv
  rw [fill_of_unused rfl hunused, enter_enumNodes, enumNodes,
    renderNodes_headNodes_of_error _ hrefused]
  rfl

/-- The template of an enum writes the lines of its outline. -/
theorem fill_enumNodes (template : String) {declaration : Enum.Declaration} {definition : Enum.Definition}
    (hnames : declaration.NamedByTexts)
    (hmade : Enum.Definition.ofDeclaration declaration = .ok definition) :
    fill template enumNodes [("enum", definition.toJson)] =
      .ok (ofLines definition.outline.lines) := by
  obtain ⟨name, hname⟩ := hnames.name
  have hdefinition : definition.name = .string name := by
    rw [Enum.Definition.eq_of_declaration hmade]
    exact hname
  have hshown : (Value.plain definition.name).rustIdent =
      .ok (.plain (.string definition.outline.ident)) := by
    rw [Enum.Definition.outline, hdefinition]
    rfl
  rw [fill_enumNodes_of_shown template hnames.values hmade hshown]
  rfl

/-! ### The text of a module -/

def headerLines (owner : String) : List String :=
  ["// Generated by godot-codegen. Do not edit.", "// Enums of " ++ owner ++ ".", "",
   "use godot_ffi as sys;"]

def moduleLines (owner : String) (outlines : List Outline) : List String :=
  headerLines owner ++ outlines.flatMap fun outline => "" :: outline.lines

def moduleScope (context : String → Option Value) (owner blocks : Value) : Scope :=
  { frames := [⟨["owner", "blocks"], [], [("owner", some owner), ("blocks", some blocks)]⟩],
    context }

section

variable (context : String → Option Value) (owner blocks : Value)

theorem read_owner : (moduleScope context owner blocks).read "owner" = owner := by
  have hplain : Text.decomposed "owner" = "owner" := Text.decomposed_of_ascii (by simp)
  simp [moduleScope, Scope.read, Scope.value?, Variables.value?, hplain, Dictionary.get?]

theorem read_blocks : (moduleScope context owner blocks).read "blocks" = blocks := by
  have hplain : Text.decomposed "blocks" = "blocks" := Text.decomposed_of_ascii (by simp)
  simp [moduleScope, Scope.read, Scope.value?, Variables.value?, hplain, Dictionary.get?]

end

theorem enter_moduleNodes (owner blocks : Json) :
    Scope.enter { context := contextValue? [("owner", owner), ("blocks", blocks)] } []
        moduleNodes =
      moduleScope (contextValue? [("owner", owner), ("blocks", blocks)]) (.plain owner)
        (.plain blocks) := by
  have howner : Text.decomposed "owner" = "owner" := Text.decomposed_of_ascii (by simp)
  have hblocks : Text.decomposed "blocks" = "blocks" := Text.decomposed_of_ascii (by simp)
  have hframe : Frame.afterAll (fun _ => false) {} moduleNodes =
      ⟨[("owner", .context), ("blocks", .context)], []⟩ := by cbv
  have hscope : Scope.frameOf { context := contextValue? [("owner", owner), ("blocks", blocks)] }
      (List.map Prod.fst ([] : List (String × Value))) moduleNodes =
      ⟨[("owner", .context), ("blocks", .context)], []⟩ := hframe
  unfold Scope.enter
  dsimp only
  rw [hscope]
  simp [moduleScope, Scope.variablesOf, Scope.valuesAround, Scope.emptyNames, Dictionary.keys,
    contextValue?, Dictionary.get?, Dictionary.insert, Variables.set, howner, hblocks]

def blockNodes : List Node :=
  [.text "\n", .print (.name "block"), .text ""]

theorem renderNodes_blockNodes (scope : Scope) (block : String) :
    renderNodes blockNodes (scope.enter [("block", .plain (.string block))] blockNodes) =
      .ok ("\n" ++ block, scope.enter [("block", .plain (.string block))] blockNodes) := by
  have hplain : Text.decomposed "block" = "block" := Text.decomposed_of_ascii (by simp)
  have hframe : scope.frameOf ["block"] blockNodes =
      ⟨[("block", .given)], ["block"]⟩ := rfl
  rw [enter_round hplain hframe]
  let round := roundScope scope "block" (.plain (.string block))
  have hblock : evaluate (.name "block") round = .ok (.plain (.string block), round) := by
    rw [evaluate_name, read_roundScope hplain]
  have hrow : renderNodes blockNodes round =
      .ok (String.join ["\n", block, ""], round) := by
    apply renderNodes_of_gives
    apply List.Forall₂.cons (gives_text _ _)
    apply List.Forall₂.cons (gives_print hblock)
    apply List.Forall₂.cons (gives_text _ _)
    exact .nil
  rw [hrow]
  simp only [String.join_cons, String.join_nil, String.append_empty]
  rfl

theorem ofLines_headerLines (owner rest : String) :
    "// Generated by godot-codegen. Do not edit.\n// Enums of " ++ (owner ++
      (".\n\nuse godot_ffi as sys;\n" ++ rest)) = ofLines (headerLines owner) ++ rest := by
  have hhead : "// Generated by godot-codegen. Do not edit.\n// Enums of " =
      "// Generated by godot-codegen. Do not edit." ++ ("\n" ++ "// Enums of ") := by simp
  have huse : ".\n\nuse godot_ffi as sys;\n" =
      "." ++ ("\n" ++ ("" ++ ("\n" ++ ("use godot_ffi as sys;" ++ "\n")))) := by simp
  unfold headerLines
  rw [hhead, huse]
  simp only [ofLines_cons, ofLines_nil, String.append_assoc, String.empty_append]

/-- The template of a module writes a header and its blocks, each after an empty line. -/
theorem fill_moduleNodes (template owner : String) (blocks : List String) :
    fill template moduleNodes
        [("owner", .string owner), ("blocks", .array (blocks.map .string))] =
      .ok (ofLines (headerLines owner) ++ String.join (blocks.map ("\n" ++ ·))) := by
  have hunused : usesFirst selfName moduleNodes = false := by cbv
  have hloop : usesFirst loopName blockNodes = false := by cbv
  let values : Json := .array (blocks.map .string)
  let scope := moduleScope (contextValue? [("owner", .string owner), ("blocks", values)])
    (.plain (.string owner)) (.plain values)
  have howner : evaluate (.name "owner") scope = .ok (.plain (.string owner), scope) := by
    rw [evaluate_name, read_owner]
  have hblocks : evaluate (.name "blocks") scope = .ok (.plain values, scope) := by
    rw [evaluate_name, read_blocks]
  have hrounds : List.Forall₂ (fun item text =>
      renderNodes blockNodes (scope.enter [("block", .plain item)] blockNodes) =
        .ok (text, scope.enter [("block", .plain item)] blockNodes))
      (blocks.map .string) (blocks.map ("\n" ++ ·)) := by
    rw [List.forall₂_map_left_iff, List.forall₂_map_right_iff, List.forall₂_same]
    intro block _
    exact renderNodes_blockNodes scope block
  have hrow : renderNodes moduleNodes scope = .ok (String.join
      ["// Generated by godot-codegen. Do not edit.\n// Enums of ", owner,
       ".\n\nuse godot_ffi as sys;\n", String.join (blocks.map ("\n" ++ ·)), ""], scope) := by
    apply renderNodes_of_gives
    apply List.Forall₂.cons (gives_text _ _)
    apply List.Forall₂.cons (gives_print howner)
    apply List.Forall₂.cons (gives_text _ _)
    apply List.Forall₂.cons (gives_loop hblocks hloop hrounds)
    apply List.Forall₂.cons (gives_text _ _)
    exact .nil
  rw [fill_of_unused rfl hunused, enter_moduleNodes]
  change Except.map _ (renderNodes moduleNodes scope) = _
  rw [hrow]
  simp only [String.join_cons, String.join_nil, String.append_empty]
  rw [ofLines_headerLines]
  rfl

/-- The lines of a module of enums are those of the enums, each after an empty line. -/
theorem ofLines_moduleLines (owner : String) (outlines : List Outline) :
    ofLines (moduleLines owner outlines) = ofLines (headerLines owner) ++
      String.join (outlines.map fun outline => "\n" ++ ofLines outline.lines) := by
  rw [moduleLines, ofLines_append, ← join_map_ofLines]
  simp only [ofLines_cons, String.empty_append]

end EngineBindings.Template
