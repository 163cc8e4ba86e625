/-
  EngineBindings/Template/Library.lean
  ====================================
  **Where templates are looked up.**

  A library answers the name of a template with its text: from the user's directory of
  templates if it has the file, else from the two templates of this package.  The first
  writes one enum as a Rust type, the second a module out of the texts of its enums.
-/
import EngineBindings.FileTree.Basic
import EngineBindings.FileTree.Encoding
import EngineBindings.Log.Record
import EngineBindings.Template.Parse
import EngineBindings.Template.Render
import EngineBindings.Text.Newline

namespace EngineBindings.Template

/-! ### The package -/

/-- Lines with their ends. -/
def ofLines (lines : List String) : String :=
  String.join (lines.map (· ++ "\n"))

/-- One enum: the type, its ordinal, its constants, and the bit operations of a bitfield. -/
def enumTemplate : String := ofLines
  ["\x7b% set name = enum.name | safe_ident %\x7d",
   "#[repr(transparent)]",
   "#[derive(Copy, Clone, Eq, PartialEq, Debug, Hash)]",
   "pub struct \x7b\x7b name \x7d\x7d \x7b",
   "    ord: \x7b\x7b enum.storage \x7d\x7d,",
   "\x7d",
   "impl \x7b\x7b name \x7d\x7d \x7b",
   "    /// Ordinal value of the enumerator, as specified in Godot.",
   "    /// This is not necessarily unique.",
   "    pub const fn ord(self) -> \x7b\x7b enum.public_ord \x7d\x7d \x7b",
   "        self.ord as \x7b\x7b enum.public_ord \x7d\x7d",
   "    \x7d",
   "\x7b% for e in enum.enumerators %\x7d",
   "    pub const \x7b\x7b e.name | safe_ident \x7d\x7d: Self = " ++
     "Self \x7b ord: \x7b\x7b e.value \x7d\x7d \x7d;",
   "\x7b% endfor %\x7d",
   "\x7d",
   "impl sys::GodotFfi for \x7b\x7b name \x7d\x7d \x7b",
   "    sys::ffi_methods! \x7b type sys::GDNativeTypePtr = *mut Self; .. \x7d",
   "\x7d",
   "\x7b% if enum.is_bitfield %\x7d",
   "impl \x7b\x7b name \x7d\x7d \x7b",
   "    pub const UNSET: Self = Self \x7b ord: \x7b\x7b enum.unset \x7d\x7d \x7d;",
   "\x7d",
   "impl std::ops::BitOr for \x7b\x7b name \x7d\x7d \x7b",
   "    type Output = Self;",
   "",
   "    fn bitor(self, rhs: Self) -> Self::Output \x7b",
   "        Self \x7b ord: self.ord | rhs.ord \x7d",
   "    \x7d",
   "\x7d",
   "\x7b% endif %\x7d"]

/-- A module: a header that names the owner of its enums, and their texts. -/
def moduleTemplate : String := ofLines
  ["// Generated by godot-codegen. Do not edit.",
   "// Enums of \x7b\x7b owner \x7d\x7d.",
   "",
   "use godot_ffi as sys;",
   "\x7b% for block in blocks %\x7d",
   "",
   "\x7b\x7b block \x7d\x7d",
   "\x7b%- endfor %\x7d"]

/-- The templates of the package by name. -/
def package : Dictionary String String :=
  [("enum.rs.j2", enumTemplate), ("enums_module.rs.j2", moduleTemplate)]

/-! ### Libraries -/

/-- Where templates are looked up before the package: a directory of the user, if there is
    one. -/
structure Library where
  directory : Option Path := none

namespace Library

/-- The library of the package and, if a directory of templates is given, of its files.  A
    directory that does not exist is passed over with a warning. -/
def forDirectory? (tree : FileTree) : Option Path → List Log.Record × Except FileTree.Error Library
  | none => ([], .ok {})
  | some directory =>
    match tree.isDirectory directory with
    | .ok true => ([], .ok { directory := some directory })
    | .ok false =>
      ([Log.warning Log.filesLogger ("Templates directory " ++ directory.text ++
        " does not exist; using package templates")], .ok {})
    | .error e => ([], .error e)

/-- The file that a row of names leads to from the directory of the user. -/
def userFile? (library : Library) (tree : FileTree) (parts : List String) : Option ByteArray :=
  library.directory.bind fun directory =>
    match tree.lookup ⟨directory.slashes, directory.parts ++ parts⟩ with
    | .ok (.file bytes _) => some bytes
    | _ => none

/-- The text of a template.  A name never leads out of the directory of templates. -/
def source (library : Library) (tree : FileTree) (name : String) : Except Error String :=
  let parts := Path.partsOf name
  if ".." ∈ parts then .error (.notFound name)
  else
    match library.userFile? tree parts with
    | some bytes =>
      match Encoding.utf8.decode? bytes with
      | some text => .ok (Text.unixNewlines text)
      | none => .error .undecodable
    | none =>
      match Dictionary.get? ("/".intercalate parts) package with
      | some text => .ok text
      | none => .error (.notFound name)

/-- The text of a template whose names have the values of a context. -/
def render (library : Library) (tree : FileTree) (name : String)
    (context : List (String × Json)) : Except Error String := do
  fill name (← parse (← library.source tree name)) context

end Library

end EngineBindings.Template
