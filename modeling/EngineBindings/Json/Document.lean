/-
  EngineBindings/Json/Document.lean
  =================================
  **Reading a JSON document.**

  A document is one value with blanks around it.  The reader holds the lists and objects that
  are open, innermost first, and what may come next; each token either moves it on or ends
  the reading.  A field that is given twice keeps its first place and its last value.
-/
import EngineBindings.Json.Token

namespace EngineBindings.Json

/-- Why a text is no document. -/
inductive ReadError where
  | malformed
  /-- An integer has more digits than a document may hold. -/
  | longInteger
  /-- Lists and objects lie deeper in each other than a document may have them. -/
  | tooDeep
deriving DecidableEq, Repr

/-- A list or an object whose end has not come: the items read, last first, or the fields read
    and the key at hand. -/
inductive Frame where
  | items (done : List Json)
  | fields (done : Dictionary String Json) (key : String)

/-- What may come next. -/
inductive Expect where
  | value
  | firstItem
  | firstKey
  | key
  | colon (key : String)
  | separator
  | nothing (document : Json)

/-- A document half read. -/
structure Reader where
  frames : List Frame
  expect : Expect

namespace Reader

def empty : Reader := ⟨[], .value⟩

/-- A value read in full goes to the innermost open list or object. -/
def deliver (value : Json) : List Frame → Reader
  | [] => ⟨[], .nothing value⟩
  | .items done :: frames => ⟨.items (value :: done) :: frames, .separator⟩
  | .fields done key :: frames =>
    ⟨.fields (Dictionary.insert key value done) key :: frames, .separator⟩

/-- How deep lists and objects may lie in each other. -/
def maxDepth : Nat := 990

def enter (frame : Frame) (frames : List Frame) (expect : Expect) : Except ReadError Reader :=
  if frames.length < maxDepth then .ok ⟨frame :: frames, expect⟩ else .error .tooDeep

/-- The token where a value has to start. -/
def startValue (frames : List Frame) : Token → Except ReadError Reader
  | .scalar value => .ok (deliver value frames)
  | .openList => enter (.items []) frames .firstItem
  | .openObject => enter (.fields [] "") frames .firstKey
  | .longInteger => .error .longInteger
  | _ => .error .malformed

def accept (reader : Reader) (token : Token) : Except ReadError Reader :=
  match reader.expect, token, reader.frames with
  | .firstItem, .closeList, .items _ :: frames => .ok (deliver (array []) frames)
  | .firstKey, .closeObject, .fields _ _ :: frames => .ok (deliver (object []) frames)
  | .firstKey, .scalar (string key), frames => .ok ⟨frames, .colon key⟩
  | .key, .scalar (string key), frames => .ok ⟨frames, .colon key⟩
  | .colon key, .colon, .fields done _ :: frames => .ok ⟨.fields done key :: frames, .value⟩
  | .separator, .comma, .items done :: frames => .ok ⟨.items done :: frames, .value⟩
  | .separator, .comma, .fields done key :: frames => .ok ⟨.fields done key :: frames, .key⟩
  | .separator, .closeList, .items done :: frames => .ok (deliver (array done.reverse) frames)
  | .separator, .closeObject, .fields done _ :: frames => .ok (deliver (object done) frames)
  | .value, token, frames => startValue frames token
  | .firstItem, token, frames => startValue frames token
  | _, _, _ => .error .malformed

def document (reader : Reader) : Except ReadError Json :=
  match reader.expect with
  | .nothing value => .ok value
  | _ => .error .malformed

end Reader

def read (text : String) : Except ReadError Json := do
  let (reader, scan) ← text.toList.foldlM (fun (reader, scan) c => do
    let (tokens, scan) := Scan.step scan c
    let reader ← tokens.foldlM Reader.accept reader
    pure (reader, scan)) (Reader.empty, Scan.between)
  let reader ← scan.finish.foldlM Reader.accept reader
  reader.document

end EngineBindings.Json
