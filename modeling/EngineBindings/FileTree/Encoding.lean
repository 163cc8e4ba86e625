/-
  EngineBindings/FileTree/Encoding.lean
  =====================================
  **Texts as bytes.**

  A file holds bytes.  UTF-8 writes every character, Latin-1 the first 256 in one byte each,
  and ASCII the first 128; what cannot be written or read is refused as a whole.
-/

namespace EngineBindings

inductive Encoding where
  | utf8
  | latin1
  | ascii
deriving DecidableEq, Repr

namespace Encoding

/-- The number of characters that take one byte each. -/
def width? : Encoding → Option Nat
  | utf8 => none
  | latin1 => some 256
  | ascii => some 128

def encode? (encoding : Encoding) (text : String) : Option ByteArray :=
  match encoding.width? with
  | none => some text.toUTF8
  | some width =>
    if text.toList.all fun c => c.toNat < width then
      some ⟨(text.toList.map fun c => UInt8.ofNat c.toNat).toArray⟩
    else none

def decode? (encoding : Encoding) (bytes : ByteArray) : Option String :=
  match encoding.width? with
  | none => String.fromUTF8? bytes
  | some width =>
    if bytes.data.toList.all fun b => b.toNat < width then
      some (String.ofList (bytes.data.toList.map fun b => Char.ofNat b.toNat))
    else none

end Encoding

end EngineBindings
