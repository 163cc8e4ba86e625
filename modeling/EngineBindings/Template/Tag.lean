/-
  EngineBindings/Template/Tag.lean
  ================================
  **Where the tags of a template are.**

  A template is first cut into stretches of text and tags.  The text around a statement then
  loses white space that only lays the template out: the line end right after the tag, and
  the blanks before a tag that stands first on its line.  A tag written with a minus at an
  edge drops all white space on that side; one with a plus keeps the blanks before it.
-/
import EngineBindings.Text.Blank

namespace EngineBindings.Template

/-! ### Cutting -/

inductive TagKind where
  | print
  | statement
  | comment
deriving DecidableEq, Repr

/-- The character that stands next to the brace of a tag. -/
def TagKind.mark : TagKind → Char
  | print => '\x7b'
  | statement => '%'
  | comment => '#'

/-- The character that stands before the closing brace of a tag. -/
def TagKind.closingMark : TagKind → Char
  | print => '\x7d'
  | statement => '%'
  | comment => '#'

/-- The kind of tag that a brace and the character after it open. -/
def TagKind.opened? (brace mark : Char) : Option TagKind :=
  if brace ≠ '\x7b' then none
  else [print, statement, comment].find? (·.mark = mark)

/-- A stretch of a template. -/
inductive Stretch where
  | text (text : List Char)
  | tag (kind : TagKind) (body : List Char)
  /-- A tag whose end is missing. -/
  | unclosed

/-- The stretches of a template.  `within` is the tag that is open and `read` what has been
    read of the stretch at hand, last character first. -/
def cut (within : Option TagKind) (read : List Char) : List Char → List Stretch
  | [] => match within with
    | none => [.text read.reverse]
    | some _ => [.unclosed]
  | [c] => match within with
    | none => [.text (c :: read).reverse]
    | some _ => [.unclosed]
  | c :: d :: rest =>
    match within with
    | none =>
      match TagKind.opened? c d with
      | some kind => .text read.reverse :: cut (some kind) [] rest
      | none => cut none (c :: read) (d :: rest)
    | some kind =>
      if c = kind.closingMark ∧ d = '\x7d' then .tag kind read.reverse :: cut none [] rest
      else cut (some kind) (c :: read) (d :: rest)

/-! ### Tags -/

/-- What a tag does to the white space on one side: what its kind does, drop all of it, or
    keep all of it. -/
inductive Edge where
  | plain
  | drop
  | keep
deriving DecidableEq, Repr

structure Tag where
  kind : TagKind
  before : Edge
  after : Edge
  body : List Char

def Tag.ofBody (kind : TagKind) (body : List Char) : Tag :=
  let (before, body) := match body with
    | '-' :: rest => (Edge.drop, rest)
    | '+' :: rest => (Edge.keep, rest)
    | rest => (Edge.plain, rest)
  match body.reverse, kind with
  | '-' :: rest, _ => ⟨kind, before, .drop, rest.reverse⟩
  | '+' :: _, .print => ⟨kind, before, .plain, body⟩
  | '+' :: rest, _ => ⟨kind, before, .keep, rest.reverse⟩
  | _, _ => ⟨kind, before, .plain, body⟩

/-! ### White space -/

/-- The text after a tag, and whether it starts a line. -/
def trimStart (previous : Option Tag) (text : List Char) : List Char × Bool :=
  match previous with
  | none => (text, true)
  | some tag =>
    match tag.after, tag.kind, text with
    | .drop, _, _ =>
      (text.dropWhile Text.isBlank, (text.takeWhile Text.isBlank).getLast? = some '\n')
    | .keep, _, _ => (text, false)
    | .plain, .print, _ => (text, false)
    | .plain, _, '\n' :: rest => (rest, true)
    | .plain, _, _ => (text, false)

/-- The text before a tag.  The blanks between a line end, or the start of a line, and a
    statement go. -/
def trimEnd (startsLine : Bool) (next : Option Tag) (text : List Char) : List Char :=
  match next with
  | none => text
  | some tag =>
    match tag.before, tag.kind with
    | .drop, _ => Text.dropTrailingBlanks text
    | .keep, _ => text
    | .plain, .print => text
    | .plain, _ =>
      let last := (text.reverse.takeWhile (· ≠ '\n')).reverse
      if (last.length < text.length || startsLine) && last.all Text.isBlank then
        text.take (text.length - last.length)
      else text

/-- A text as it is printed, or a tag. -/
inductive Part where
  | text (text : String)
  | tag (tag : Tag)
  /-- A tag whose end is missing. -/
  | unclosed

def Stretch.tag? : Stretch → Option Tag
  | .tag kind body => some (Tag.ofBody kind body)
  | _ => none

def parts (previous : Option Tag) : List Stretch → List Part
  | [] => []
  | .text text :: rest =>
    let (text, startsLine) := trimStart previous text
    .text (String.ofList (trimEnd startsLine (rest.head?.bind Stretch.tag?) text)) ::
      parts previous rest
  | .tag kind body :: rest =>
    let tag := Tag.ofBody kind body
    .tag tag :: parts (some tag) rest
  | .unclosed :: rest => .unclosed :: parts previous rest

end EngineBindings.Template
