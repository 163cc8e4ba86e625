/-
  EngineBindings/RustType/Basic.lean
  ==================================
  **Rust types.**

  A type of the engine's API is written in Rust as one of four kinds: a plain identifier, a
  container over other types, an enum in the module of its owner, or a handle over an engine
  class.  All four have one shape, a name with type arguments and perhaps a module, and one
  spelling; the kind decides whether the module is spelled.
-/

namespace EngineBindings

inductive RustType.Kind where
  | builtin
  | generic
  | engineEnum
  | engineClass
deriving DecidableEq, Repr

/-- A Rust type.  The name of a handle over a class is the handle's, with the class as its
    argument; the module is that of an enum. -/
inductive RustType where
  | mk (kind : RustType.Kind) (name : String) (args : List RustType) (module : Option String)

namespace RustType

def Kind.word : Kind → String
  | builtin => "BUILTIN_IDENT"
  | generic => "BUILTIN_GENERIC"
  | engineEnum => "ENGINE_ENUM"
  | engineClass => "ENGINE_CLASS"

/-! ### Parts -/

def kind : RustType → Kind
  | mk kind _ _ _ => kind

def name : RustType → String
  | mk _ name _ _ => name

def args : RustType → List RustType
  | mk _ _ args _ => args

def module : RustType → Option String
  | mk _ _ _ module => module

/-! ### The four kinds -/

def ident (name : String) : RustType :=
  mk .builtin name [] none

instance : Inhabited RustType := ⟨ident ""⟩

/-- A container over other types. -/
def container (name : String) (args : List RustType) : RustType :=
  mk .generic name args none

/-- An enum in the module of its owner. -/
def enumIn (module name : String) : RustType :=
  mk .engineEnum name [] (some module)

/-- A handle over an engine class. -/
def handleOver (handle className : String) : RustType :=
  mk .engineClass handle [ident className] none

@[simp] theorem kind_ident (name : String) : (ident name).kind = .builtin := rfl

@[simp] theorem kind_container (name : String) (args : List RustType) :
    (container name args).kind = .generic := rfl

@[simp] theorem kind_enumIn (module name : String) :
    (enumIn module name).kind = .engineEnum := rfl

@[simp] theorem kind_handleOver (handle className : String) :
    (handleOver handle className).kind = .engineClass := rfl

/-! ### Spelling -/

/-- The path of a type: the name, and before it the module of an enum unless that is empty. -/
def path : RustType → String
  | mk .engineEnum name _ (some module) => if module = "" then name else module ++ "::" ++ name
  | mk _ name _ _ => name

def className? : RustType → Option String
  | mk .engineClass _ (arg :: _) _ => some arg.name
  | _ => none

/-- Type arguments between angle brackets; none are not written. -/
def bracketed (texts : List String) : String :=
  if texts.isEmpty then "" else "<" ++ ", ".intercalate texts ++ ">"

mutual

def text : RustType → String
  | mk kind name args module => path (mk kind name [] module) ++ bracketed (texts args)

def texts : List RustType → List String
  | [] => []
  | type :: rest => type.text :: texts rest

end

/-! ### Depth -/

mutual

/-- The number of types inside each other below a type. -/
def depth : RustType → Nat
  | mk _ _ args _ => depthBelow args

/-- The number of types inside each other in a list of types. -/
def depthBelow : List RustType → Nat
  | [] => 0
  | type :: rest => max (type.depth + 1) (depthBelow rest)

end

/-- The most types inside each other that are shown. -/
def maxDepth : Nat := 330

/-- Whether a type is nested too deeply to be shown. -/
def isTooDeep (type : RustType) : Bool :=
  maxDepth < type.depth

/-! ### Equality -/

mutual

/-- Types are equal when they agree in kind, name, module and arguments. -/
def decEq : (a b : RustType) → Decidable (a = b)
  | mk k n as m, mk k' n' as' m' =>
    if h : k = k' ∧ n = n' ∧ m = m' then
      match decEqArgs as as' with
      | isTrue same => isTrue (by rw [h.1, h.2.1, h.2.2, same])
      | isFalse other => isFalse (by simp [other])
    else isFalse (by rintro ⟨⟩; exact h ⟨rfl, rfl, rfl⟩)

/-- Lists of types are equal when they agree place by place. -/
def decEqArgs : (as bs : List RustType) → Decidable (as = bs)
  | [], [] => isTrue rfl
  | [], _ :: _ => isFalse (by simp)
  | _ :: _, [] => isFalse (by simp)
  | a :: as, b :: bs =>
    match decEq a b with
    | isTrue same =>
      match decEqArgs as bs with
      | isTrue rest => isTrue (by rw [same, rest])
      | isFalse other => isFalse (by simp [other])
    | isFalse other => isFalse (by simp [other])

end

instance : DecidableEq RustType := decEq

end RustType

end EngineBindings
