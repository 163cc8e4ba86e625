/-
  EngineBindings/Proofs/Template/Package.lean
  ===========================================
  **The templates of the package.**

  The two templates are read into fixed rows of nodes (`parse_enumTemplate`,
  `parse_moduleTemplate`), and a library that finds their texts fills in these nodes
  (`Library.render_of_source`).

  The template of an enum starts in a scope with two names: `enum`, that the context gives, and
  `name`, that the first statement assigns (`enter_enumNodes`).  The nodes up to the name of the
  type need nothing else, so every text that the template gives begins with the head of a type
  named by the Rust identifier of the enum (`render_enum_eq_ok`).
-/
import Mathlib
import EngineBindings.Template.Library
import EngineBindings.Enum.Definition
import EngineBindings.Proofs.Template.Render

namespace EngineBindings.Template

/-! ### The nodes -/

theorem toList_ofLines (lines : List String) :
    (ofLines lines).toList = lines.flatMap fun line => line.toList ++ ['\n'] := by
  unfold ofLines
  induction lines with
  | nil => rfl
  | cons line rest ih => simp [String.join_cons, ih]

def enumField (name : String) : Expression :=
  .field (.name "enum") name

def headNodes : List Node :=
  [.text "", .assign "name" (.rustIdent (enumField "name")),
   .text "#[repr(transparent)]\n#[derive(Copy, Clone, Eq, PartialEq, Debug, Hash)]\npub struct ",
   .print (.name "name")]

def constantNodes : List Node :=
  [.text "    pub const ", .print (.rustIdent (.field (.name "e") "name")),
   .text ": Self = Self \x7b ord: ", .print (.field (.name "e") "value"), .text " \x7d;\n"]

def bitNodes : List Node :=
  [.text "impl ", .print (.name "name"),
   .text " \x7b\n    pub const UNSET: Self = Self \x7b ord: ", .print (enumField "unset"),
   .text " \x7d;\n\x7d\nimpl std::ops::BitOr for ", .print (.name "name"),
   .text (" \x7b\n    type Output = Self;\n\n    fn bitor(self, rhs: Self) -> Self::Output \x7b\n" ++
     "        Self \x7b ord: self.ord | rhs.ord \x7d\n    \x7d\n\x7d\n")]

def bodyNodes : List Node :=
  [.text " \x7b\n    ord: ", .print (enumField "storage"), .text ",\n\x7d\nimpl ",
   .print (.name "name"),
   .text (" \x7b\n    /// Ordinal value of the enumerator, as specified in Godot.\n" ++
     "    /// This is not necessarily unique.\n    pub const fn ord(self) -> "),
   .print (enumField "public_ord"), .text " \x7b\n        self.ord as ",
   .print (enumField "public_ord"), .text "\n    \x7d\n",
   .loop "e" (enumField "enumerators") constantNodes,
   .text "\x7d\nimpl sys::GodotFfi for ", .print (.name "name"),
   .text " \x7b\n    sys::ffi_methods! \x7b type sys::GDNativeTypePtr = *mut Self; .. \x7d\n\x7d\n",
   .branch (enumField "is_bitfield") bitNodes, .text ""]

def enumNodes : List Node :=
  headNodes ++ bodyNodes

-- the characters are read line by line: those of the whole text are too many to work out at once
set_option maxRecDepth 100000 in
theorem parse_enumTemplate : parse enumTemplate = .ok enumNodes := by
  unfold parse enumTemplate
  rw [toList_ofLines]
  cbv

def moduleNodes : List Node :=
  [.text "// Generated by godot-codegen. Do not edit.\n// Enums of ", .print (.name "owner"),
   .text ".\n\nuse godot_ffi as sys;\n",
   .loop "block" (.name "blocks") [.text "\n", .print (.name "block"), .text ""], .text ""]

set_option maxRecDepth 100000 in
theorem parse_moduleTemplate : parse moduleTemplate = .ok moduleNodes := by
  unfold parse moduleTemplate
  rw [toList_ofLines]
  cbv

/-- A library fills in the nodes of the text that it finds. -/
theorem Library.render_of_source {library : Library} {tree : FileTree} {name source : String}
    {nodes : List Node} (hsource : library.source tree name = .ok source)
    (hparse : parse source = .ok nodes) (context : List (String × Json)) :
    library.render tree name context = fill name nodes context := by
  unfold render
  rw [hsource]
  change Except.bind (parse source) _ = _
  rw [hparse]
  rfl

/-- A library without a directory of the user finds the templates of the package. -/
theorem Library.source_of_package {library : Library} (hnone : library.directory = none)
    {name source : String} (hparts : Path.partsOf name = [name]) (hstraight : ".." ≠ name)
    (hentry : Dictionary.get? name package = some source) (tree : FileTree) :
    library.source tree name = .ok source := by
  have hkey : "/".intercalate [name] = name := by simp
  unfold Library.source Library.userFile?
  rw [hparts, hnone]
  dsimp only [Option.bind_none]
  rw [if_neg (by simpa using hstraight), hkey, hentry]

theorem source_enumTemplate {library : Library} (hnone : library.directory = none)
    (tree : FileTree) : library.source tree "enum.rs.j2" = .ok enumTemplate := by
  have hentry : Dictionary.get? "enum.rs.j2" package = some enumTemplate := by
    simp [package, Dictionary.get?]
  exact Library.source_of_package hnone (by decide) (by decide) hentry tree

theorem source_moduleTemplate {library : Library} (hnone : library.directory = none)
    (tree : FileTree) : library.source tree "enums_module.rs.j2" = .ok moduleTemplate := by
  have hentry : Dictionary.get? "enums_module.rs.j2" package = some moduleTemplate := by
    simp [package, Dictionary.get?]
  exact Library.source_of_package hnone (by decide) (by decide) hentry tree

theorem render_enumTemplate {library : Library} (hnone : library.directory = none)
    (tree : FileTree) (context : List (String × Json)) :
    library.render tree "enum.rs.j2" context = fill "enum.rs.j2" enumNodes context :=
  Library.render_of_source (source_enumTemplate hnone tree) parse_enumTemplate context

theorem render_moduleTemplate {library : Library} (hnone : library.directory = none)
    (tree : FileTree) (context : List (String × Json)) :
    library.render tree "enums_module.rs.j2" context =
      fill "enums_module.rs.j2" moduleNodes context :=
  Library.render_of_source (source_moduleTemplate hnone tree) parse_moduleTemplate context

/-! ### The scope of an enum -/

/-- The scope of the template: the enum, and the identifier once it is assigned. -/
def enumScope (context : String → Option Value) (enum : Value) (ident : Option Value) : Scope :=
  { frames := [⟨["enum", "name"], [], [("enum", some enum), ("name", ident)]⟩], context }

theorem decomposed_enum : Text.decomposed "enum" = "enum" :=
  Text.decomposed_of_ascii (by simp)

theorem decomposed_name : Text.decomposed "name" = "name" :=
  Text.decomposed_of_ascii (by simp)

section

variable (context : String → Option Value) (enum : Value)

theorem read_enum (ident : Option Value) : (enumScope context enum ident).read "enum" = enum := by
  simp [enumScope, Scope.read, Scope.value?, Variables.value?, decomposed_enum, Dictionary.get?]

theorem read_name (ident : Value) :
    (enumScope context enum (some ident)).read "name" = ident := by
  simp [enumScope, Scope.read, Scope.value?, Variables.value?, decomposed_name, Dictionary.get?]

theorem assign_name (old new : Option Value) :
    (enumScope context enum old).assign "name" new = enumScope context enum new := by
  simp [enumScope, Scope.assign, Variables.set, decomposed_name, Dictionary.insert]

end

/-- The template is entered with the enum of the context, and with no identifier. -/
theorem enter_enumNodes (value : Json) :
    Scope.enter { context := contextValue? [("enum", value)] } [] enumNodes =
      enumScope (contextValue? [("enum", value)]) (.plain value) none := by
  have hframe : Frame.afterAll (fun _ => false) {} enumNodes =
      ⟨[("enum", .context), ("name", .nothing)], ["name"]⟩ := by cbv
  have hscope : Scope.frameOf { context := contextValue? [("enum", value)] }
      (List.map Prod.fst ([] : List (String × Value))) enumNodes =
      ⟨[("enum", .context), ("name", .nothing)], ["name"]⟩ := hframe
  unfold Scope.enter
  dsimp only
  rw [hscope]
  simp [enumScope, Scope.variablesOf, Scope.valuesAround, Scope.emptyNames, Dictionary.keys,
    contextValue?, Dictionary.get?, Dictionary.insert, Variables.set, decomposed_enum,
    decomposed_name]

/-! ### The head -/

def headText (ident : String) : String :=
  "#[repr(transparent)]\n#[derive(Copy, Clone, Eq, PartialEq, Debug, Hash)]\npub struct " ++ ident

/-- The head of an enum whose name has an identifier, whatever comes after it. -/
theorem renderNodes_headNodes (context : String → Option Value) {definition : Enum.Definition}
    {shown : Json} (hshown : (Value.plain definition.name).rustIdent = .ok (.plain shown))
    (rest : List Node) :
    renderNodes (headNodes ++ rest) (enumScope context (.plain definition.toJson) none) =
      (renderNodes rest (enumScope context (.plain definition.toJson)
        (some (.plain shown)))).map fun (more, last) => (headText shown.display ++ more, last) := by
  -- the nodes one after the other, each in the scope that the one before has left
  let start := enumScope context (.plain definition.toJson) none
  let named := enumScope context (.plain definition.toJson) (some (.plain shown))
  have hfield : evaluate (enumField "name") start = .ok (.plain definition.name, start) :=
    evaluate_field (read_enum _ _ _) (by decide) rfl
  have hassign : renderNode (.assign "name" (.rustIdent (enumField "name"))) start =
      .ok ("", named) := by
    rw [renderNode_assign (evaluate_rustIdent hfield hshown), assign_name]
  have hident : evaluate (.name "name") named = .ok (.plain shown, named) := by
    rw [evaluate_name, read_name]
  have hprint : renderNode (.print (.name "name")) named = .ok (shown.display, named) :=
    renderNode_print hident
  have hjoin : ∀ first ident more : String,
      "" ++ ("" ++ (first ++ (ident ++ more))) = first ++ ident ++ more := by
    simp [String.append_assoc]
  unfold headNodes
  rw [List.cons_append, renderNodes_cons_of_ok (renderNode_text "" start), List.cons_append,
    renderNodes_cons_of_ok hassign, List.cons_append,
    renderNodes_cons_of_ok (renderNode_text _ named), List.cons_append,
    renderNodes_cons_of_ok hprint, List.nil_append]
  cases renderNodes rest named with
  | error e => rfl
  | ok found =>
    exact congrArg (fun text => Except.ok (text, found.2)) (hjoin _ _ found.1)

theorem renderNodes_headNodes_of_error (context : String → Option Value)
    {definition : Enum.Definition} {cause : Error}
    (hrefused : (Value.plain definition.name).rustIdent = .error cause) (rest : List Node) :
    renderNodes (headNodes ++ rest) (enumScope context (.plain definition.toJson) none) =
      .error cause := by
  let start := enumScope context (.plain definition.toJson) none
  have hfield : evaluate (enumField "name") start = .ok (.plain definition.name, start) :=
    evaluate_field (read_enum _ _ _) (by decide) rfl
  have hassign : renderNode (.assign "name" (.rustIdent (enumField "name"))) start =
      .error cause :=
    renderNode_assign_of_error (evaluate_rustIdent_of_error hfield hrefused)
  unfold headNodes
  rw [List.cons_append, renderNodes_cons_of_ok (renderNode_text "" start), List.cons_append,
    renderNodes_cons_of_error hassign]
  rfl

/-- Every text that the template of the package gives for an enum named by a text declares a type
    first, named by the identifier of the enum. -/
theorem render_enum_eq_ok {library : Library} (hnone : library.directory = none)
    {tree : FileTree} {definition : Enum.Definition} {name text : String}
    (hname : definition.name = .string name)
    (hok : library.render tree "enum.rs.j2" [("enum", definition.toJson)] = .ok text) :
    ∃ rest, text = headText (Naming.rustIdent name) ++ (" \x7b\n" ++ rest) := by
  have hunused : usesFirst selfName enumNodes = false := by cbv
  have hbody : bodyNodes = .text (" \x7b\n" ++ "    ord: ") :: bodyNodes.tail := rfl
  have hshown : (Value.plain definition.name).rustIdent =
      .ok (.plain (.string (Naming.rustIdent name))) := by
    rw [hname]
    rfl
  rw [render_enumTemplate hnone, fill_of_unused rfl hunused, enter_enumNodes, enumNodes,
    renderNodes_headNodes _ hshown, hbody, renderNodes_cons_of_ok (renderNode_text _ _)] at hok
  revert hok
  cases renderNodes bodyNodes.tail _ with
  | error e => nofun
  | ok found =>
    intro hok
    have htext : headText (Naming.rustIdent name) ++ (" \x7b\n" ++ "    ord: " ++ found.1) = text :=
      Except.ok.inj hok
    rw [String.append_assoc] at htext
    exact ⟨"    ord: " ++ found.1, htext.symm⟩

end EngineBindings.Template
