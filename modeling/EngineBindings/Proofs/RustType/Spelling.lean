/-
  EngineBindings/Proofs/RustType/Spelling.lean
  ============================================
  **What the spelling of a type tells.**

  A spelling shows the path of a type and its arguments, and nothing else: neither the kind nor
  a module that is not spelled (`text_pathTree`).  It shows all of that, as long as no name holds
  a mark of its own, an angle bracket or a comma: the first mark ends the path, a comma or a
  closing bracket ends an argument, and so the text of a type ends itself whatever follows it
  (`text_ends_itself`).  Main statement: `text_eq_iff_pathTree_eq`.
-/
import EngineBindings.RustType.Basic
import Mathlib.Data.List.Basic

namespace EngineBindings

/-! ### Trees of paths -/

/-- What a spelling shows of a type: its path, and as much of its arguments. -/
inductive PathTree where
  | node (path : String) (args : List PathTree)

namespace PathTree

def path : PathTree → String
  | node path _ => path

def args : PathTree → List PathTree
  | node _ args => args

mutual

def text : PathTree → String
  | node path args => path ++ RustType.bracketed (texts args)

def texts : List PathTree → List String
  | [] => []
  | tree :: rest => tree.text :: texts rest

end

end PathTree

namespace RustType

mutual

def pathTree : RustType → PathTree
  | mk kind name args module => .node (path (mk kind name [] module)) (pathTrees args)

def pathTrees : List RustType → List PathTree
  | [] => []
  | type :: rest => type.pathTree :: pathTrees rest

end

/-- The path of a type does not depend on its arguments. -/
theorem path_mk (kind : Kind) (name : String) (args : List RustType) (module : Option String) :
    path (mk kind name args module) = path (mk kind name [] module) := by
  cases kind <;> cases module <;> rfl

theorem path_pathTree (type : RustType) : type.pathTree.path = type.path := by
  obtain ⟨kind, name, args, module⟩ := type
  rw [pathTree, PathTree.path, ← path_mk kind name args module]

theorem texts_eq_map (types : List RustType) : texts types = types.map text := by
  induction types with
  | nil => rfl
  | cons type rest ih => rw [texts, ih, List.map_cons]

theorem text_eq (type : RustType) : type.text = type.path ++ bracketed (type.args.map text) := by
  obtain ⟨kind, name, args, module⟩ := type
  rw [text, texts_eq_map, ← path_mk kind name args module]
  rfl

theorem args_pathTree (type : RustType) : type.pathTree.args = pathTrees type.args := by
  obtain ⟨kind, name, args, module⟩ := type
  rfl

mutual

/-- The spelling of a type is that of its tree of paths. -/
theorem text_pathTree : ∀ type : RustType, type.pathTree.text = type.text
  | mk kind name args module => by
    rw [pathTree, PathTree.text, text, texts_pathTrees args]

theorem texts_pathTrees : ∀ types : List RustType,
    PathTree.texts (pathTrees types) = texts types
  | [] => rfl
  | type :: rest => by
    rw [pathTrees, PathTree.texts, texts, text_pathTree type, texts_pathTrees rest]

end

/-! ### Marks -/

def isMark (c : Char) : Bool :=
  c = '<' || c = '>' || c = ','

def isUnmarked (text : String) : Bool :=
  text.toList.all fun c => !isMark c

mutual

def namesUnmarked : RustType → Bool
  | mk _ name args module =>
    isUnmarked name && module.all isUnmarked && allNamesUnmarked args

def allNamesUnmarked : List RustType → Bool
  | [] => true
  | type :: rest => type.namesUnmarked && allNamesUnmarked rest

end

theorem isMark_of_mem_unmarked {text : String} (hunmarked : isUnmarked text = true) {c : Char}
    (hc : c ∈ text.toList) : isMark c = false := by
  simpa using List.all_eq_true.mp hunmarked c hc

theorem isUnmarked_append (front back : String) :
    isUnmarked (front ++ back) = (isUnmarked front && isUnmarked back) := by
  unfold isUnmarked
  rw [String.toList_append, List.all_append]

theorem isUnmarked_path {kind : Kind} {name : String} {args : List RustType}
    {module : Option String} (hname : isUnmarked name = true)
    (hmodule : module.all isUnmarked = true) :
    isUnmarked (path (mk kind name args module)) = true := by
  cases kind with
  | engineEnum =>
    cases module with
    | none => exact hname
    | some owner =>
      have howner : isUnmarked owner = true := hmodule
      rw [path]
      split
      · exact hname
      · rw [isUnmarked_append, isUnmarked_append, howner, hname]
        decide
  | _ => exact hname

/-! ### Where a spelling ends -/

/-- A row of characters begins with a mark, if it is not empty. -/
def BeginsMarked (cs : List Char) : Prop :=
  ∀ c, cs.head? = some c → isMark c = true

/-- What may follow the spelling of a type: the next argument or the end of the arguments, or
    nothing. -/
def FollowsType (cs : List Char) : Prop :=
  ∀ c, cs.head? = some c → c = ',' ∨ c = '>'

theorem FollowsType.beginsMarked {cs : List Char} (hfollows : FollowsType cs) :
    BeginsMarked cs := by
  intro c hc
  rcases hfollows c hc with rfl | rfl <;> rfl

/-- What stands before the first mark is told by the whole. -/
theorem unmarked_front_unique {front other rest more : List Char}
    (hfront : ∀ c ∈ front, isMark c = false) (hother : ∀ c ∈ other, isMark c = false)
    (hrest : BeginsMarked rest) (hmore : BeginsMarked more)
    (hsame : front ++ rest = other ++ more) : front = other ∧ rest = more := by
  induction front generalizing other with
  | nil =>
    cases other with
    | nil => exact ⟨rfl, hsame⟩
    | cons c other =>
      have hmark := hrest c (by rw [show rest = c :: other ++ more from hsame]; rfl)
      rw [hother c List.mem_cons_self] at hmark
      cases hmark
  | cons c front ih =>
    cases other with
    | nil =>
      have hmark := hmore c (by rw [show more = c :: front ++ rest from hsame.symm]; rfl)
      rw [hfront c List.mem_cons_self] at hmark
      cases hmark
    | cons d other =>
      obtain ⟨rfl, htail⟩ := List.cons.inj hsame
      obtain ⟨rfl, hrest'⟩ := ih (fun c hc => hfront c (List.mem_cons_of_mem _ hc))
        (fun c hc => hother c (List.mem_cons_of_mem _ hc)) htail
      exact ⟨rfl, hrest'⟩

/-- The arguments behind the first one, each behind a comma. -/
def furtherArgs (types : List RustType) : List Char :=
  types.flatMap fun type => ',' :: ' ' :: type.text.toList

theorem followsType_furtherArgs (types : List RustType) (rest : List Char) :
    FollowsType (furtherArgs types ++ '>' :: rest) := by
  intro c hc
  cases types with
  | nil => exact Or.inr (Option.some.inj hc).symm
  | cons type types => exact Or.inl (Option.some.inj hc).symm

theorem toList_intercalate_texts (type : RustType) (types : List RustType) :
    (", ".intercalate (texts (type :: types))).toList =
      type.text.toList ++ furtherArgs types := by
  induction types generalizing type with
  | nil => simp [texts, furtherArgs]
  | cons next types ih =>
    have hnext := ih next
    rw [texts] at hnext ⊢
    rw [texts, String.intercalate_cons_cons, String.toList_append, String.toList_append, hnext,
      List.append_assoc]
    rfl

theorem toList_text (kind : Kind) (name : String) (args : List RustType)
    (module : Option String) :
    (mk kind name args module).text.toList =
      (path (mk kind name [] module)).toList ++ (bracketed (texts args)).toList := by
  rw [text, String.toList_append]

theorem toList_bracketed_cons (type : RustType) (types : List RustType) :
    (bracketed (texts (type :: types))).toList =
      '<' :: (type.text.toList ++ (furtherArgs types ++ ['>'])) := by
  have htexts : (texts (type :: types)).isEmpty = false := rfl
  rw [bracketed, if_neg (by rw [htexts]; decide), String.toList_append, String.toList_append,
    toList_intercalate_texts]
  simp

/-- What follows the path of a type begins with a mark. -/
theorem beginsMarked_bracketed (args : List RustType) {rest : List Char}
    (hrest : FollowsType rest) : BeginsMarked ((bracketed (texts args)).toList ++ rest) := by
  cases args with
  | nil => exact hrest.beginsMarked
  | cons type types =>
    intro c hc
    rw [toList_bracketed_cons] at hc
    cases hc
    rfl

/-- No arguments are followed by no opening bracket, and arguments by their closing one; so the
    rows of arguments may be compared as if each was written behind a comma. -/
theorem furtherArgs_eq_of_bracketed_eq {first second : List RustType} {rest more : List Char}
    (hrest : FollowsType rest) (hmore : FollowsType more)
    (hsame : (bracketed (texts first)).toList ++ rest =
      (bracketed (texts second)).toList ++ more) :
    furtherArgs first ++ '>' :: rest = furtherArgs second ++ '>' :: more := by
  cases first with
  | nil =>
    cases second with
    | nil => exact congrArg ('>' :: ·) hsame
    | cons other others =>
      rw [toList_bracketed_cons] at hsame
      have hopen := hrest '<' (by rw [show rest = _ from hsame]; rfl)
      exact absurd hopen (by decide)
  | cons type types =>
    rw [toList_bracketed_cons] at hsame
    cases second with
    | nil =>
      have hopen := hmore '<' (by rw [show more = _ from hsame.symm]; rfl)
      exact absurd hopen (by decide)
    | cons other others =>
      rw [toList_bracketed_cons] at hsame
      simp only [List.cons_append, List.append_assoc, List.nil_append, List.cons.injEq,
        true_and] at hsame
      change (',' :: ' ' :: type.text.toList) ++ furtherArgs types ++ '>' :: rest =
        (',' :: ' ' :: other.text.toList) ++ furtherArgs others ++ '>' :: more
      simp only [List.cons_append, List.append_assoc, hsame]

mutual

/-- Two spellings that go on with what may follow a type are those of the same tree, and go on
    alike. -/
theorem text_ends_itself : ∀ (first second : RustType) {rest more : List Char},
    first.namesUnmarked = true → second.namesUnmarked = true → FollowsType rest →
    FollowsType more → first.text.toList ++ rest = second.text.toList ++ more →
    first.pathTree = second.pathTree ∧ rest = more
  | mk kind name args module, mk kind' name' args' module', rest, more => by
    intro hfirst hsecond hrest hmore hsame
    simp only [namesUnmarked, Bool.and_eq_true] at hfirst hsecond
    rw [toList_text, toList_text, List.append_assoc, List.append_assoc] at hsame
    obtain ⟨hpath, hbracketed⟩ := unmarked_front_unique
      (fun c => isMark_of_mem_unmarked (isUnmarked_path hfirst.1.1 hfirst.1.2))
      (fun c => isMark_of_mem_unmarked (isUnmarked_path hsecond.1.1 hsecond.1.2))
      (beginsMarked_bracketed args hrest) (beginsMarked_bracketed args' hmore) hsame
    obtain ⟨hargs, hrests⟩ := furtherArgs_end_themselves args args' hfirst.2 hsecond.2
      (furtherArgs_eq_of_bracketed_eq hrest hmore hbracketed)
    rw [pathTree, pathTree, String.toList_injective hpath, hargs]
    exact ⟨rfl, hrests⟩

theorem furtherArgs_end_themselves : ∀ (first second : List RustType) {rest more : List Char},
    allNamesUnmarked first = true → allNamesUnmarked second = true →
    furtherArgs first ++ '>' :: rest = furtherArgs second ++ '>' :: more →
    pathTrees first = pathTrees second ∧ rest = more
  | [], [], rest, more => fun _ _ hsame => ⟨rfl, (List.cons.inj hsame).2⟩
  | [], type :: types, rest, more => by
    intro _ _ hsame
    exact absurd (List.cons.inj hsame).1 (by decide)
  | type :: types, [], rest, more => by
    intro _ _ hsame
    exact absurd (List.cons.inj hsame).1 (by decide)
  | type :: types, other :: others, rest, more => by
    intro hfirst hsecond hsame
    simp only [allNamesUnmarked, Bool.and_eq_true] at hfirst hsecond
    simp only [furtherArgs, List.flatMap_cons, List.cons_append, List.append_assoc,
      List.cons.injEq, true_and] at hsame
    obtain ⟨hhead, htail⟩ := text_ends_itself type other hfirst.1 hsecond.1
      (followsType_furtherArgs types rest) (followsType_furtherArgs others more) hsame
    obtain ⟨htrees, hrests⟩ := furtherArgs_end_themselves types others hfirst.2 hsecond.2 htail
    rw [pathTrees, pathTrees, hhead, htrees]
    exact ⟨rfl, hrests⟩

end

/-! ### Spellings and trees -/

theorem pathTree_eq_of_text_eq {first second : RustType} (hfirst : first.namesUnmarked = true)
    (hsecond : second.namesUnmarked = true) (hsame : first.text = second.text) :
    first.pathTree = second.pathTree := by
  have hnothing : FollowsType [] := nofun
  exact (text_ends_itself first second hfirst hsecond hnothing hnothing
    (by rw [hsame])).1

/-- Two types without marks in their names have the same spelling exactly when they have the
    same path and as many arguments with, place by place, the same spelling; and so all the way
    down, which is to say exactly when their trees of paths are the same. -/
theorem text_eq_iff_pathTree_eq (first second : RustType) (hfirst : first.namesUnmarked = true)
    (hsecond : second.namesUnmarked = true) :
    (first.text = second.text ↔
      first.path = second.path ∧ first.args.map text = second.args.map text) ∧
    (first.text = second.text ↔ first.pathTree = second.pathTree) := by
  have htree : first.text = second.text ↔ first.pathTree = second.pathTree := by
    constructor
    · exact pathTree_eq_of_text_eq hfirst hsecond
    · intro hsame
      rw [← text_pathTree first, hsame, text_pathTree]
  refine ⟨⟨?_, ?_⟩, htree⟩
  · intro hsame
    have htrees := htree.mp hsame
    have hargs : pathTrees first.args = pathTrees second.args := by
      rw [← args_pathTree, htrees, args_pathTree]
    refine ⟨by rw [← path_pathTree, htrees, path_pathTree], ?_⟩
    rw [← texts_eq_map, ← texts_pathTrees, hargs, texts_pathTrees, texts_eq_map]
  · rintro ⟨hpath, hargs⟩
    rw [text_eq first, text_eq second, hpath, hargs]

def handleAndNothing : RustType :=
  container "TypedArray" [handleOver "Gd" "Node", ident ""]

/-- The same spelling in other kinds, with an empty module. -/
def genericAndNothing : RustType :=
  container "TypedArray" [container "Gd" [enumIn "" "Node"], enumIn "" ""]

def nothingInside : RustType :=
  container "TypedArray" [container "Gd" [ident "Node", ident ""]]

/-- The first two types are spelled alike because their paths are the same, and the third one,
    with the same paths in another nesting, is not. -/
theorem spelling_of_empty_arguments :
    (handleAndNothing.namesUnmarked = true ∧ genericAndNothing.namesUnmarked = true ∧
      nothingInside.namesUnmarked = true) ∧
    handleAndNothing.text = genericAndNothing.text ∧
    handleAndNothing.text ≠ nothingInside.text := by
  have hfirst : handleAndNothing.namesUnmarked = true := by decide
  have hsecond : genericAndNothing.namesUnmarked = true := by decide
  have hthird : nothingInside.namesUnmarked = true := by decide
  refine ⟨⟨hfirst, hsecond, hthird⟩, ?_, ?_⟩
  · exact (text_eq_iff_pathTree_eq _ _ hfirst hsecond).2.mpr rfl
  · intro hsame
    have hargs := ((text_eq_iff_pathTree_eq _ _ hfirst hthird).1.mp hsame).2
    exact absurd (congrArg List.length hargs) (by decide)

end RustType

end EngineBindings
