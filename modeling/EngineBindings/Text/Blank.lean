/-
  EngineBindings/Text/Blank.lean
  ==============================
  **Blank characters.**

  Template tags may ask for the white space around them to be dropped.  White space is the
  Unicode class: the ASCII blanks, the four information separators, the next-line character
  and the spaces and line separators of the later blocks.
-/

namespace EngineBindings.Text

def isBlank (c : Char) : Bool :=
  let n := c.toNat
  (0x09 ≤ n && n ≤ 0x0D) || (0x1C ≤ n && n ≤ 0x20) || n == 0x85 || n == 0xA0 || n == 0x1680 ||
    (0x2000 ≤ n && n ≤ 0x200A) || n == 0x2028 || n == 0x2029 || n == 0x202F || n == 0x205F ||
    n == 0x3000

/-- The characters without the blanks at their end. -/
def dropTrailingBlanks (cs : List Char) : List Char :=
  (cs.reverse.dropWhile isBlank).reverse

end EngineBindings.Text
