/-
  EngineBindings/Naming/Keyword.lean
  ==================================
  **Identifiers that Rust reserves.**

  Enum and constant names of the engine are used as Rust identifiers.  A name that is a
  keyword of Rust takes an underscore at its end; the comparison is exact, so `Self` is a
  keyword and `SELF` is not.
-/

namespace EngineBindings.Naming

/-- The strict and reserved keywords of Rust. -/
def reservedWords : List String :=
  ["as", "break", "const", "continue", "crate", "else", "enum", "extern", "false", "fn", "for",
   "if", "impl", "in", "let", "loop", "match", "mod", "move", "mut", "pub", "ref", "return",
   "self", "Self", "static", "struct", "super", "trait", "true", "type", "unsafe", "use",
   "where", "while",
   "async", "await", "dyn",
   "abstract", "become", "box", "do", "final", "macro", "override", "priv", "typeof", "unsized",
   "virtual", "yield",
   "try"]

def rustIdent (name : String) : String :=
  if name ∈ reservedWords then name ++ "_" else name

/-- The Rust name of an enum: the engine's own. -/
def enumName (name : String) : String := name

/-- The Rust name of an enumerator of an enum: the engine's own. -/
def enumeratorName (name _enum : String) : String := name

end EngineBindings.Naming
