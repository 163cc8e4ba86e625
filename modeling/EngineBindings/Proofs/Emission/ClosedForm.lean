/-
  EngineBindings/Proofs/Emission/ClosedForm.lean
  ==============================================
  **What the templates of the package write.**

  The settings name two templates, and a directory of the user may hold files under these names.
  All that counts is that the library finds the texts of the package under them
  (`ReadsPackage`).  Then the tags of the templates leave no trace.  The text of an enum is that
  of its lines, whatever its names look like (`ReadsPackage.enumText_eq_ok`), and the text of a
  module is four lines and the texts of its enums, each after an empty line
  (`ReadsPackage.moduleText_eq`).  A module has no text exactly when one of its enums has none.
-/
import EngineBindings.Proofs.Emission.Declaration
import EngineBindings.Proofs.Template.Lines

namespace EngineBindings.Emitter

/-- In a tree the library finds the templates of the package under the names of the settings. -/
structure ReadsPackage (emitter : Emitter) (tree : FileTree) : Prop where
  enumTemplate :
    emitter.templates.source tree emitter.settings.enumTemplate = .ok Template.enumTemplate
  moduleTemplate :
    emitter.templates.source tree emitter.settings.moduleTemplate = .ok Template.moduleTemplate

structure UsesPackageModules (emitter : Emitter) : Prop extends UsesPackage emitter where
  moduleTemplate : emitter.settings.moduleTemplate = "enums_module.rs.j2"

theorem UsesPackageModules.readsPackage {emitter : Emitter} (hpackage : emitter.UsesPackageModules)
    (tree : FileTree) : emitter.ReadsPackage tree := by
  constructor
  · rw [hpackage.template]
    exact Template.source_enumTemplate hpackage.directory tree
  · rw [hpackage.moduleTemplate]
    exact Template.source_moduleTemplate hpackage.directory tree

section

variable {emitter : Emitter} {tree : FileTree}

theorem ReadsPackage.enumText_eq_fill (hreads : emitter.ReadsPackage tree)
    (definition : Enum.Definition) :
    emitter.enumText tree definition = Template.fill emitter.settings.enumTemplate
      Template.enumNodes [("enum", definition.toJson)] :=
  Template.Library.render_of_source hreads.enumTemplate Template.parse_enumTemplate _

theorem ReadsPackage.enumText_eq_ok (hreads : emitter.ReadsPackage tree)
    {declaration : Enum.Declaration} {definition : Enum.Definition}
    (hnames : declaration.NamedByTexts)
    (hmade : Enum.Definition.ofDeclaration declaration = .ok definition) :
    emitter.enumText tree definition = .ok (Template.ofLines definition.outline.lines) := by
  rw [hreads.enumText_eq_fill, Template.fill_enumNodes _ hnames hmade]

/-- An enum has a text if a set can hold its name.  Then the text is that of its outline, under
    what is shown for the name. -/
theorem ReadsPackage.enumText_of_values (hreads : emitter.ReadsPackage tree)
    {declaration : Enum.Declaration} {definition : Enum.Definition}
    (hnames : declaration.ValuesNamedByTexts)
    (hmade : Enum.Definition.ofDeclaration declaration = .ok definition) :
    (declaration.name.isKey = false ∧ emitter.enumText tree definition = .error .wrongType) ∨
      (declaration.name.isKey = true ∧ ∃ ident,
        emitter.enumText tree definition =
          .ok (Template.ofLines (Template.Outline.lines { definition.outline with ident })) ∧
        ∀ name, declaration.name = .string name → ident = Naming.rustIdent name) := by
  have hname : definition.name = declaration.name := by
    rw [Enum.Definition.eq_of_declaration hmade]
    rfl
  rw [← hname]
  cases hkey : definition.name.isKey with
  | false =>
    left
    rw [hreads.enumText_eq_fill,
      Template.fill_enumNodes_of_error _ (Template.rustIdent_of_not_isKey hkey)]
    exact ⟨rfl, rfl⟩
  | true =>
    right
    obtain ⟨shown, hshown⟩ := Template.rustIdent_of_isKey hkey
    refine ⟨rfl, shown.display, ?_, ?_⟩
    · rw [hreads.enumText_eq_fill, Template.fill_enumNodes_of_shown _ hnames hmade hshown]
    · intro name htext
      rw [htext] at hshown
      cases hshown
      rfl

theorem ReadsPackage.moduleText_eq (hreads : emitter.ReadsPackage tree) (owner : String)
    (definitions : List Enum.Definition) :
    emitter.moduleText tree owner definitions =
      (definitions.mapM (emitter.enumText tree)).map fun texts =>
        Template.ofLines (Template.headerLines owner) ++ String.join (texts.map ("\n" ++ ·)) := by
  unfold moduleText
  cases definitions.mapM (emitter.enumText tree) with
  | error cause => rfl
  | ok texts =>
    change emitter.templates.render tree emitter.settings.moduleTemplate _ = _
    rw [Template.Library.render_of_source hreads.moduleTemplate Template.parse_moduleTemplate,
      Template.fill_moduleNodes]
    rfl

end

/-- With the templates of the package an enum that is named by texts, and whose enumerators are,
    always has a text: the head of the type and of its first block, a line for each enumerator
    in order, the block of the foreign interface and, for a bitfield, those of the zero constant
    and of the bit operations.  A module of any enums is a header that names its owner and the
    texts of the enums, each after a line end. -/
theorem texts_by_package_templates (emitter : Emitter) (tree : FileTree)
    (hreads : emitter.ReadsPackage tree) :
    (∀ (declaration : Enum.Declaration) (definition : Enum.Definition),
      declaration.NamedByTexts → Enum.Definition.ofDeclaration declaration = .ok definition →
        emitter.enumText tree definition = .ok (Template.ofLines
          (Template.typeLines (Naming.rustIdent declaration.name.display) ++
            (declaration.values.map fun v =>
              "    pub const " ++ Naming.rustIdent v.name.display ++
                ": Self = Self \x7b ord: " ++ toString v.value ++ " \x7d;") ++
            Template.closingLines (Naming.rustIdent declaration.name.display) ++
            if declaration.isBitfield then
              Template.bitLines (Naming.rustIdent declaration.name.display)
            else []))) ∧
      ∀ (owner : String) (definitions : List Enum.Definition),
        emitter.moduleText tree owner definitions =
          (definitions.mapM (emitter.enumText tree)).map fun texts =>
            Template.ofLines
              ["// Generated by godot-codegen. Do not edit.", "// Enums of " ++ owner ++ ".", "",
               "use godot_ffi as sys;"] ++ String.join (texts.map ("\n" ++ ·)) := by
  constructor
  · intro declaration definition hnames hmade
    rw [hreads.enumText_eq_ok hnames hmade, Enum.Definition.outline_of_declaration hmade]
    unfold Template.Outline.lines
    rw [List.map_map, List.append_assoc, List.append_assoc]
    rfl
  · intro owner definitions
    exact hreads.moduleText_eq owner definitions

/-- A bitfield that is called by a keyword, with a constant that looks like a tag. -/
def tagLike : Enum.Declaration :=
  ⟨.string "type", [⟨.string "\x7b% endfor %\x7d", -3, by decide⟩], true⟩

/-- Tags in names are no tags: the bitfield has the lines of any other, and so has its module. -/
theorem texts_of_tagLike :
    ∃ definition text, Enum.Definition.ofDeclaration tagLike = .ok definition ∧
      text = Template.ofLines (Template.typeLines "type_" ++
        ["    pub const \x7b% endfor %\x7d: Self = Self \x7b ord: -3 \x7d;"] ++
        Template.closingLines "type_" ++ Template.bitLines "type_") ∧
      packageEmitter.enumText smallSession.tree definition = .ok text ∧
      packageEmitter.moduleText smallSession.tree "Node" [definition] =
        .ok (Template.ofLines
          ["// Generated by godot-codegen. Do not edit.", "// Enums of Node.", "",
           "use godot_ffi as sys;"] ++ String.join ["\n" ++ text]) := by
  have hnames : tagLike.NamedByTexts := by
    refine ⟨⟨"type", rfl⟩, ?_⟩
    intro v hv
    rw [List.mem_singleton.mp hv]
    exact ⟨_, rfl⟩
  have hlines : (tagLike.values.map fun v => "    pub const " ++ Naming.rustIdent v.name.display ++
      ": Self = Self \x7b ord: " ++ toString v.value ++ " \x7d;") =
      ["    pub const \x7b% endfor %\x7d: Self = Self \x7b ord: -3 \x7d;"] := by
    decide +kernel
  have hpackage : packageEmitter.UsesPackageModules := ⟨usesPackage_packageEmitter, rfl⟩
  obtain ⟨henum, hmodule⟩ := texts_by_package_templates packageEmitter smallSession.tree
    (hpackage.readsPackage _)
  have htext := henum tagLike _ hnames rfl
  rw [hlines] at htext
  refine ⟨_, _, rfl, rfl, htext, ?_⟩
  rw [hmodule, List.mapM_cons, htext]
  rfl

end EngineBindings.Emitter
