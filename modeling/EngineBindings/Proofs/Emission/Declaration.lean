/-
  EngineBindings/Proofs/Emission/Declaration.lean
  ===============================================
  **The types that resolved enums stand for.**

  An enum resolves to its own name, letter by letter, while the template declares its type under
  the Rust identifier of the name.  The two agree on every name but the keywords of Rust
  (`resolved_struct_is_declared`), and on a keyword they do not
  (`keyword_struct_is_declared_apart`).
-/
import EngineBindings.Proofs.Attempt
import EngineBindings.Proofs.Emission.DryRun
import EngineBindings.Proofs.Emission.Resolution
import EngineBindings.Proofs.Naming.Keyword
import EngineBindings.Proofs.Template.Package

namespace EngineBindings

/-! ### Identifiers -/

namespace Naming

def isIdentifier (name : String) : Bool :=
  name.toList.all (fun c => c.isAlphanum || c = '_') &&
    name.toList.head?.any fun c => !c.isDigit

theorem blank_not_mem_rustIdent {name : String} (hident : isIdentifier name = true) :
    ' ' ∉ (rustIdent name).toList ∧ '\n' ∉ (rustIdent name).toList := by
  have hword : isWord name = true := by
    rw [isIdentifier, Bool.and_eq_true] at hident
    exact hident.1
  have hrust := isWord_rustIdent hword
  constructor
  · exact not_mem_of_isWord hrust (by decide)
  · exact not_mem_of_isWord hrust (by decide)

theorem rustIdent_eq_self_iff {name : String} :
    rustIdent name = name ↔ name ∉ reservedWords := by
  unfold rustIdent
  by_cases hword : name ∈ reservedWords
  · rw [if_pos hword]
    constructor
    · intro heq
      have hlength := congrArg String.length heq
      rw [String.length_append] at hlength
      have hone : "_".length = 1 := rfl
      omega
    · intro hother
      exact absurd hword hother
  · rw [if_neg hword]
    exact iff_of_true rfl hword

end Naming

/-! ### Declared types -/

def structOf? (line : List Char) : Option String :=
  (Text.afterChars? "pub struct ".toList line).bind fun rest =>
    match Text.cutChars? ' ' rest with
    | some (name, ['\x7b']) => some (String.ofList name)
    | _ => none

/-- The name of the first type that a text declares. -/
def declaredStruct? (text : String) : Option String :=
  (text.toList.splitOn '\n').findSome? structOf?

theorem structOf?_eq_some {ident : List Char} (hspace : ' ' ∉ ident) :
    structOf? ("pub struct ".toList ++ (ident ++ [' ', '\x7b'])) = some (String.ofList ident) := by
  have hafter : Text.afterChars? "pub struct ".toList
      ("pub struct ".toList ++ (ident ++ [' ', '\x7b'])) = some (ident ++ [' ', '\x7b']) :=
    (Text.afterChars?_eq_some_iff _ _ _).mpr rfl
  have hcut : Text.cutChars? ' ' (ident ++ [' ', '\x7b']) = some (ident, ['\x7b']) :=
    Text.cutChars?_append _ hspace
  simp only [structOf?, hafter, Option.bind_some, hcut]

/-- The lines of a text that starts with the head of a type and a brace. -/
theorem toList_headText (ident rest : String) :
    (Template.headText ident ++ (" \x7b\n" ++ rest)).toList =
      "#[repr(transparent)]".toList ++ '\n' ::
        ("#[derive(Copy, Clone, Eq, PartialEq, Debug, Hash)]".toList ++ '\n' ::
          (("pub struct ".toList ++ (ident.toList ++ [' ', '\x7b'])) ++ '\n' :: rest.toList)) := by
  have hhead : "#[repr(transparent)]\n#[derive(Copy, Clone, Eq, PartialEq, Debug, Hash)]\npub struct ".toList =
      "#[repr(transparent)]".toList ++ '\n' ::
        ("#[derive(Copy, Clone, Eq, PartialEq, Debug, Hash)]".toList ++
          '\n' :: "pub struct ".toList) := by decide +kernel
  have hparts : ∀ head : String, (head ++ ident ++ (" \x7b\n" ++ rest)).toList =
      head.toList ++ (ident.toList ++ ([' ', '\x7b', '\n'] ++ rest.toList)) := by
    intro head
    simp
  have hlines : ∀ first second third name more : List Char,
      (first ++ '\n' :: (second ++ '\n' :: third)) ++ (name ++ ([' ', '\x7b', '\n'] ++ more)) =
        first ++ '\n' :: (second ++ '\n' :: ((third ++ (name ++ [' ', '\x7b'])) ++ '\n' :: more)) := by
    intro first second third name more
    simp
  exact (hparts _).trans ((congrArg (· ++ _) hhead).trans (hlines _ _ _ _ _))

/-- A text that starts with the head of a type and a brace declares this type first. -/
theorem declaredStruct?_headText {ident : String} (hspace : ' ' ∉ ident.toList)
    (hline : '\n' ∉ ident.toList) (rest : String) :
    declaredStruct? (Template.headText ident ++ (" \x7b\n" ++ rest)) = some ident := by
  have hfirst : '\n' ∉ "#[repr(transparent)]".toList := by decide
  have hsecond : '\n' ∉ "#[derive(Copy, Clone, Eq, PartialEq, Debug, Hash)]".toList := by
    decide +kernel
  have hthird : '\n' ∉ "pub struct ".toList ++ (ident.toList ++ [' ', '\x7b']) := by
    simp [hline]
  have hnone : structOf? "#[repr(transparent)]".toList = none := by decide
  have hnone' : structOf? "#[derive(Copy, Clone, Eq, PartialEq, Debug, Hash)]".toList = none := by
    decide +kernel
  unfold declaredStruct?
  rw [toList_headText, List.splitOn_append_cons_self_of_not_mem hfirst,
    List.splitOn_append_cons_self_of_not_mem hsecond,
    List.splitOn_append_cons_self_of_not_mem hthird, List.findSome?_cons, hnone,
    List.findSome?_cons, hnone', List.findSome?_cons, structOf?_eq_some hspace]
  rw [String.ofList_toList]

/-! ### Declared and resolved -/

namespace Emitter

open Emission

def packageText (definition : Enum.Definition) : Except Template.Error String :=
  ({} : Template.Library).render .empty "enum.rs.j2" [("enum", definition.toJson)]

structure UsesPackage (emitter : Emitter) : Prop where
  directory : emitter.templates.directory = none
  template : emitter.settings.enumTemplate = "enum.rs.j2"

theorem declaredStruct?_of_packageText {definition : Enum.Definition} {name text : String}
    (hname : definition.name = .string name) (hident : Naming.isIdentifier name = true)
    (htext : packageText definition = .ok text) :
    declaredStruct? text = some (Naming.rustIdent name) := by
  obtain ⟨rest, rfl⟩ := Template.render_enum_eq_ok rfl hname htext
  obtain ⟨hspace, hline⟩ := Naming.blank_not_mem_rustIdent hident
  exact declaredStruct?_headText hspace hline rest

theorem enumText_of_usesPackage {emitter : Emitter} (hpackage : emitter.UsesPackage)
    (tree : FileTree) (definition : Enum.Definition) :
    emitter.enumText tree definition = packageText definition := by
  rw [enumText, hpackage.template, Template.render_enumTemplate hpackage.directory, packageText,
    Template.render_enumTemplate rfl]

section

variable {emitter : Emitter} {session : Session} {globals : List Enum.Definition}
  {classes : Dictionary Json (List Enum.Definition)} {paths : List Path} {path : Path}

theorem Returns.packageText_eq_ok {front : List Step} {module owner : String}
    {definitions : List Enum.Definition} (hpackage : emitter.UsesPackage)
    (hreturns : emitter.Returns session globals classes front (.write module owner definitions)
      path) : ∀ definition ∈ definitions, ∃ text, packageText definition = .ok text := by
  obtain ⟨text, _, htext, -, -, -⟩ := writeModule_eq_ok hreturns.result
  unfold moduleText at htext
  intro definition hdefinition
  cases hblocks : definitions.mapM (emitter.enumText
      (emitter.carryOutAll (emitter.prepared session) front).session.tree) with
  | error e =>
    rw [hblocks] at htext
    cases htext
  | ok blocks =>
    obtain ⟨block, hblock⟩ := exists_ok_of_mapM hblocks definition hdefinition
    rw [enumText_of_usesPackage hpackage] at hblock
    exact ⟨block, hblock⟩

theorem Wrote.packageText_eq_ok {owner : EnumOwner} {definitions : List Enum.Definition}
    (hpackage : emitter.UsesPackage)
    (hwrote : emitter.Wrote session globals classes owner definitions path) :
    ∀ definition ∈ definitions, ∃ text, packageText definition = .ok text := by
  cases hwrote with
  | globalScope hlisted hreturns => exact hreturns.packageText_eq_ok hpackage
  | ofClass hsplit hlisted hreturns => exact hreturns.packageText_eq_ok hpackage

end

/-- An enum of an emission with the name of an identifier resolves to this name, and the text
    that the template of the package gives for it declares the Rust identifier of the name: the
    name itself unless it is a keyword.  There is such a text if the emission uses the
    template. -/
theorem resolved_struct_is_declared (emitter : Emitter) (resolver : Resolver) (session : Session)
    (globals : List Enum.Definition) (classes : Dictionary Json (List Enum.Definition))
    (owner : EnumOwner) (definitions : List Enum.Definition) (path : Path)
    (definition : Enum.Definition) (name raw : String)
    (hwrote : emitter.Wrote session globals classes owner definitions path)
    (hlisted : definition ∈ definitions) (hname : definition.name = .string name)
    (hident : Naming.isIdentifier name = true) (hnames : resolver.Names raw owner name) :
    (resolver.resolve raw).name = name ∧
      (∀ text, packageText definition = .ok text →
        declaredStruct? text = some (Naming.rustIdent name) ∧
          (declaredStruct? text = some (resolver.resolve raw).name ↔
            name ∉ Naming.reservedWords)) ∧
      (emitter.UsesPackage → ∃ text, packageText definition = .ok text) := by
  have hresolved : (resolver.resolve raw).name = name := by
    rw [Resolver.resolve_of_names hnames]
    rfl
  rw [hresolved]
  refine ⟨rfl, ?_, ?_⟩
  · intro text htext
    have hdeclared := declaredStruct?_of_packageText hname hident htext
    refine ⟨hdeclared, ?_⟩
    rw [hdeclared, Option.some_inj]
    exact Naming.rustIdent_eq_self_iff
  · intro hpackage
    exact hwrote.packageText_eq_ok hpackage definition hlisted

/-! ### Two enums by the templates of the package -/

def packageEmitter : Emitter where
  directory := ⟨1, ["gen"]⟩
  dryRun := true

theorem usesPackage_packageEmitter : packageEmitter.UsesPackage := ⟨rfl, rfl⟩

/-- An enum, and one that is called by a keyword of Rust. -/
def twoEnums : List Enum.Definition :=
  [emptyEnum, ⟨.string "type", [], false, none, "i32", "i64"⟩]

theorem moduleText_of_twoEnums :
    ∃ text, packageEmitter.moduleText smallSession.tree globalOwner twoEnums = .ok text := by
  -- the templates are read by hand, so that only their nodes are filled in
  have henums : packageEmitter.enumText smallSession.tree = fun definition =>
      Template.fill "enum.rs.j2" Template.enumNodes [("enum", definition.toJson)] := by
    funext definition
    rw [enumText_of_usesPackage usesPackage_packageEmitter, packageText,
      Template.render_enumTemplate rfl]
  have hmodule : packageEmitter.moduleText smallSession.tree globalOwner twoEnums =
      (twoEnums.mapM fun definition =>
        Template.fill "enum.rs.j2" Template.enumNodes [("enum", definition.toJson)]) >>=
          fun blocks => Template.fill "enums_module.rs.j2" Template.moduleNodes
            [("owner", .string globalOwner), ("blocks", .array (blocks.map .string))] := by
    unfold moduleText
    rw [henums]
    refine bind_congr fun blocks => ?_
    exact Template.render_moduleTemplate rfl _ _
  have hfilled : (packageEmitter.moduleText smallSession.tree globalOwner
      twoEnums).toOption.isSome = true := by
    rw [hmodule]
    decide +kernel
  cases htext : packageEmitter.moduleText smallSession.tree globalOwner twoEnums with
  | error e =>
    rw [htext] at hfilled
    cases hfilled
  | ok text => exact ⟨text, rfl⟩

theorem package_emission_returns :
    (packageEmitter.writeModules smallSession twoEnums []).result =
      .ok [packageEmitter.modulePath "global"] := by
  obtain ⟨text, htext⟩ := moduleText_of_twoEnums
  have hstep : (packageEmitter.writeModule smallSession "global" globalOwner twoEnums).result =
      .ok [packageEmitter.modulePath "global"] := writeModule_of_dryRun rfl htext
  have hplan : plan packageEmitter.settings.globalModule twoEnums [] =
      [.write "global" globalOwner twoEnums] := rfl
  refine writeModules_of_carryOutAll rfl ?_
  rw [prepared_of_dryRun rfl, hplan]
  exact carryOutAll_singleton hstep

theorem package_emission_wrote :
    packageEmitter.Wrote smallSession twoEnums [] .globalScope twoEnums
      (packageEmitter.modulePath "global") := by
  have hlisted : twoEnums ≠ [] := List.cons_ne_nil _ _
  exact .globalScope hlisted (returns_of_plan package_emission_returns (plan_of_globals hlisted))

/-- The first enum resolves to the type that is declared for it. -/
theorem struct_of_package_emission_is_declared :
    (bareResolver.resolve "enum::E").name = "E" ∧
      ∃ text, packageText emptyEnum = .ok text ∧
        declaredStruct? text = some (Naming.rustIdent "E") ∧
        (declaredStruct? text = some (bareResolver.resolve "enum::E").name ↔
          "E" ∉ Naming.reservedWords) := by
  obtain ⟨hresolved, hdeclared, hexists⟩ := resolved_struct_is_declared packageEmitter bareResolver
    smallSession twoEnums [] .globalScope twoEnums _ emptyEnum "E" "enum::E"
    package_emission_wrote List.mem_cons_self rfl (by decide) ⟨Or.inl rfl, by decide, rfl⟩
  obtain ⟨text, htext⟩ := hexists usesPackage_packageEmitter
  exact ⟨hresolved, text, htext, hdeclared text htext⟩

/-- The type of the enum called `type` is declared as `type_`, and the name of the enum resolves
    to `type`. -/
theorem keyword_struct_is_declared_apart :
    ∃ definition ∈ twoEnums,
      packageEmitter.Wrote smallSession twoEnums [] .globalScope twoEnums
          (packageEmitter.modulePath "global") ∧
        definition.name = .string "type" ∧ Naming.isIdentifier "type" = true ∧
        bareResolver.Names "enum::type" .globalScope "type" ∧
        (bareResolver.resolve "enum::type").name = "type" ∧
        ∃ text, packageText definition = .ok text ∧ declaredStruct? text = some "type_" := by
  have hnames : bareResolver.Names "enum::type" .globalScope "type" :=
    ⟨Or.inl rfl, by decide, rfl⟩
  have hlisted : ⟨.string "type", [], false, none, "i32", "i64"⟩ ∈ twoEnums :=
    List.mem_cons_of_mem _ (List.mem_singleton_self _)
  refine ⟨_, hlisted, package_emission_wrote, rfl, by decide, hnames, ?_, ?_⟩
  · rw [Resolver.resolve_of_names hnames]
    rfl
  · obtain ⟨text, htext⟩ :=
      package_emission_wrote.packageText_eq_ok usesPackage_packageEmitter _ hlisted
    have hdeclared := declaredStruct?_of_packageText rfl (by decide) htext
    exact ⟨text, htext, hdeclared.trans rfl⟩

end Emitter

end EngineBindings
