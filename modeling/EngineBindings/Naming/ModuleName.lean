/-
  EngineBindings/Naming/ModuleName.lean
  =====================================
  **From class names to module names.**

  The engine names its classes in capitals (`Node2D`, `HTTPRequest`); the module that holds
  a class's enums is named in lower case with underscores (`node_2d`, `http_request`).  The
  conversion drops the underscores of the class name, walks over its characters with two
  characters of memory and one of foresight, and puts an underscore wherever a word begins.
  A few names that the general rule splits badly are corrected at the end.

  Only ASCII letters and digits take part in the rule: every other character is copied and
  ends a word no more than a colon would.
-/
import EngineBindings.Text.Affix

namespace EngineBindings.Naming

/-! ### Character classes -/

/-- ASCII capitals, and digits, which count as capitals. -/
def isCapital (c : Char) : Bool :=
  ('A' ≤ c && c ≤ 'Z') || ('0' ≤ c && c ≤ '9')

def isLower (c : Char) : Bool :=
  'a' ≤ c && c ≤ 'z'

/-- The small letter of an ASCII capital; any other character is unchanged. -/
def lowerAscii (c : Char) : Char :=
  if 'A' ≤ c && c ≤ 'Z' then Char.ofNat (c.toNat + 32) else c

/-! ### Word boundaries -/

/-- Whether a word begins at `current`, seen with the two characters before it and the one
    after it.  A word begins after a small letter, at a capital; and inside a run of capitals
    before the last one, when a small letter follows and the run did not itself begin after
    one (`HTTPRequest`).  A run that starts the name is never broken at its second character:
    a missing character before the run counts as a small letter. -/
def startsWord (beforePrevious previous : Option Char) (current : Char) (next : Option Char) :
    Bool :=
  (previous.any isCapital && isCapital current && next.any isLower &&
      !beforePrevious.all isLower) ||
    (previous.any isLower && isCapital current)

/-- The characters in lower case, each word after the first led by an underscore. -/
def separateWords (beforePrevious previous : Option Char) : List Char → List Char
  | [] => []
  | c :: rest =>
    (if startsWord beforePrevious previous c rest.head? then ['_'] else []) ++
      lowerAscii c :: separateWords previous (some c) rest

/-- The class name in lower case with its words separated, before any correction. -/
def separated (className : List Char) : List Char :=
  separateWords none none (className.filter (· ≠ '_'))

/-! ### Corrections -/

/-- Spellings put right after the general rule, in this order; each replaces its first
    occurrence only. -/
def corrections : List (List Char × List Char) :=
  [("_vec_3".toList, "_vec3_".toList),
   ("gd_native".toList, "gdnative".toList),
   ("gd_script".toList, "gdscript".toList)]

def corrected (name : List Char) : List Char :=
  corrections.foldl (fun name (pattern, replacement) =>
    Text.replaceFirst pattern replacement name) name

/-- A module name that a glob import of generated code would hide. -/
def hiddenByImport : List Char := "gdnative".toList

/-- The characters of the module name of a class. -/
def moduleChars (className : List Char) : List Char :=
  let name := corrected (separated className)
  if name = hiddenByImport then name ++ ['_'] else name

def moduleName (className : String) : String :=
  String.ofList (moduleChars className.toList)

/-! ### What two names of one module share -/

/-- A class name without its underscores and in lower case. -/
def canonical (className : List Char) : List Char :=
  (className.filter (· ≠ '_')).map lowerAscii

/-- Whether a separator stands before position `i` of a name without underscores, read off
    the characters at the four positions around it. -/
def separatorAt (cs : List Char) (i : Nat) : Bool :=
  match i with
  | 0 => false
  | 1 => cs[0]?.any isLower && cs[1]?.any isCapital
  | i + 2 =>
    (cs[i + 1]?.any isLower && cs[i + 2]?.any isCapital) ||
      (cs[i + 1]?.any isCapital && cs[i + 2]?.any isCapital &&
        cs[i + 3]?.any isLower && !cs[i]?.any isLower)

end EngineBindings.Naming
