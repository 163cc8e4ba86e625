/-
  EngineBindings/Proofs/Template/Render.lean
  ==========================================
  **What nodes give.**

  Rendering is a row of steps that see a scope, and a step that succeeds hands its value and its
  scope on (`bind_of_ok`).  So each kind of expression and node has one rule.  A row of nodes that
  leave the scope alone gives the row of their texts (`renderNodes_of_gives`), a loop gives the
  texts of its rounds (`gives_loop`), and a template is one frame (`fill_of_unused`).
-/
import Mathlib
import EngineBindings.Template.Render

namespace EngineBindings.Template

/-- A step that succeeds hands its value and its scope on to the next one. -/
theorem bind_of_ok {α β : Type} {step : Rendering α} {next : α → Rendering β}
    {scope after : Scope} {value : α} (hstep : step scope = .ok (value, after)) :
    (step >>= next) scope = next value after := by
  change Except.bind (step scope) _ = _
  rw [hstep]
  rfl

/-! ### Expressions -/

/-- A field of an object, if its name is not that of an operation. -/
theorem getField_object {fields : List (String × Json)} {name : String} {value : Json}
    (hfree : ValueType.dictionary.find? name = none)
    (hget : Dictionary.get? name fields = some value) :
    (Value.plain (.object fields)).getField name = .ok (.plain value) := by
  have hown : (Value.plain (.object fields)).ownField? name = none := by
    simp [Value.ownField?, Value.commonField?, Value.typeOf, ValueType.ofJson, hfree]
  simp [Value.getField, hown, Json.field?, hget]

theorem evaluate_name (name : String) (scope : Scope) :
    evaluate (.name name) scope = .ok (scope.read name, scope) := by
  rw [evaluate]
  rfl

theorem evaluate_field {scope : Scope} {fields : List (String × Json)} {base name : String}
    {value : Json} (hread : scope.read base = .plain (.object fields))
    (hfree : ValueType.dictionary.find? name = none)
    (hget : Dictionary.get? name fields = some value) :
    evaluate (.field (.name base) name) scope = .ok (.plain value, scope) := by
  have hown := getField_object hfree hget
  have hfield : fieldOf (.plain (.object fields)) name scope = .ok (.plain value, scope) := by
    unfold fieldOf
    dsimp only
    rw [hown]
    rfl
  have hbase : evaluate (.name base) scope = .ok (.plain (.object fields), scope) := by
    rw [evaluate_name, hread]
  rw [evaluate, bind_of_ok hbase, hfield]

theorem evaluate_rustIdent {scope : Scope} {e : Expression} {value shown : Json}
    (he : evaluate e scope = .ok (.plain value, scope))
    (hshown : (Value.plain value).rustIdent = .ok (.plain shown)) :
    evaluate (.rustIdent e) scope = .ok (.plain shown, scope) := by
  have hthere : (liftM (Value.plain value).demand : Rendering Value) scope =
      .ok (.plain value, scope) := rfl
  rw [evaluate, bind_of_ok he, bind_of_ok hthere, hshown]
  rfl

theorem evaluate_rustIdent_of_error {scope : Scope} {e : Expression} {value : Json} {cause : Error}
    (he : evaluate e scope = .ok (.plain value, scope))
    (hrefused : (Value.plain value).rustIdent = .error cause) :
    evaluate (.rustIdent e) scope = .error cause := by
  have hthere : (liftM (Value.plain value).demand : Rendering Value) scope =
      .ok (.plain value, scope) := rfl
  rw [evaluate, bind_of_ok he, bind_of_ok hthere, hrefused]
  rfl

theorem rustIdent_of_isKey {value : Json} (hkey : value.isKey = true) :
    ∃ shown, (Value.plain value).rustIdent = .ok (.plain shown) := by
  cases value with
  | array items => cases hkey
  | object fields => cases hkey
  | _ => exact ⟨_, rfl⟩

theorem rustIdent_of_not_isKey {value : Json} (hkey : value.isKey = false) :
    (Value.plain value).rustIdent = .error .wrongType := by
  cases value with
  | array items => rfl
  | object fields => rfl
  | _ => cases hkey

/-! ### Nodes -/

theorem renderNode_text (text : String) (scope : Scope) :
    renderNode (.text text) scope = .ok (text, scope) := by
  rw [renderNode]
  rfl

theorem renderNode_assign {scope : Scope} {name : String} {e : Expression} {value : Json}
    (he : evaluate e scope = .ok (.plain value, scope)) :
    renderNode (.assign name e) scope = .ok ("", scope.assign name (some (.plain value))) := by
  have hassign : assign name e scope = .ok ((), scope.assign name (some (.plain value))) := by
    rw [assign, bind_of_ok he]
    rfl
  rw [renderNode, bind_of_ok hassign]
  rfl

theorem renderNode_assign_of_error {scope : Scope} {name : String} {e : Expression} {cause : Error}
    (he : evaluate e scope = .error cause) : renderNode (.assign name e) scope = .error cause := by
  rw [renderNode]
  change Except.bind (Except.bind (evaluate e scope) _) _ = _
  rw [he]
  rfl

theorem valueOf_plain {scope : Scope} {e : Expression} {value : Json}
    (he : evaluate e scope = .ok (.plain value, scope)) :
    valueOf e scope = .ok (.plain value, scope) := by
  rw [valueOf, bind_of_ok he]
  rfl

theorem renderNode_print {scope : Scope} {e : Expression} {value : Json}
    (he : evaluate e scope = .ok (.plain value, scope)) :
    renderNode (.print e) scope = .ok (value.display, scope) := by
  rw [renderNode, printed, bind_of_ok (valueOf_plain he)]
  rfl

theorem renderNodes_cons_of_ok {node : Node} {rest : List Node} {scope after : Scope}
    {text : String} (hnode : renderNode node scope = .ok (text, after)) :
    renderNodes (node :: rest) scope =
      (renderNodes rest after).map fun (more, last) => (text ++ more, last) := by
  rw [renderNodes, bind_of_ok hnode]
  change Except.bind (renderNodes rest after) _ = _
  cases renderNodes rest after <;> rfl

theorem renderNodes_cons_of_error {node : Node} {rest : List Node} {scope : Scope} {cause : Error}
    (hnode : renderNode node scope = .error cause) :
    renderNodes (node :: rest) scope = .error cause := by
  rw [renderNodes]
  change Except.bind (renderNode node scope) _ = _
  rw [hnode]
  rfl

/-! ### Rows, branches and loops -/

/-- In a scope a node gives a text, and leaves the scope alone. -/
def Gives (scope : Scope) (node : Node) (text : String) : Prop :=
  renderNode node scope = .ok (text, scope)

theorem gives_text (scope : Scope) (text : String) : Gives scope (.text text) text :=
  renderNode_text text scope

theorem gives_print {scope : Scope} {e : Expression} {value : Json}
    (he : evaluate e scope = .ok (.plain value, scope)) : Gives scope (.print e) value.display :=
  renderNode_print he

theorem renderNodes_of_gives {scope : Scope} {nodes : List Node} {texts : List String}
    (hnodes : List.Forall₂ (Gives scope) nodes texts) :
    renderNodes nodes scope = .ok (String.join texts, scope) := by
  induction hnodes with
  | nil =>
    rw [renderNodes]
    rfl
  | cons hnode _ ih =>
    rw [renderNodes_cons_of_ok hnode, ih, String.join_cons]
    rfl

theorem gives_branch {scope : Scope} {condition : Expression} {body : List Node} {b : Bool}
    {text : String} (hcondition : evaluate condition scope = .ok (.plain (.bool b), scope))
    (hbody : b = true → renderNodes body scope = .ok (text, scope)) :
    Gives scope (.branch condition body) (if b then text else "") := by
  unfold Gives
  rw [renderNode, bind_of_ok (valueOf_plain hcondition)]
  cases b with
  | false => rfl
  | true => exact hbody rfl

/-- The scope in a round of a loop whose body uses no other name. -/
def roundScope (scope : Scope) (name : String) (value : Value) : Scope :=
  { scope with frames := ⟨[name], [name], [(name, some value)]⟩ :: scope.frames }

theorem read_roundScope {scope : Scope} {name : String} {value : Value}
    (hname : Text.decomposed name = name) : (roundScope scope name value).read name = value := by
  simp [roundScope, Scope.read, Scope.value?, Variables.value?, hname, Dictionary.get?]

theorem enter_round {scope : Scope} {name : String} {value : Value} {body : List Node}
    (hname : Text.decomposed name = name)
    (hframe : scope.frameOf [name] body = ⟨[(name, .given)], [name]⟩) :
    scope.enter [(name, value)] body = roundScope scope name value := by
  have hgiven : scope.frameOf (List.map Prod.fst [(name, value)]) body =
      ⟨[(name, .given)], [name]⟩ := hframe
  unfold Scope.enter roundScope
  dsimp only
  rw [hgiven]
  simp [Scope.variablesOf, Scope.valuesAround, Scope.emptyNames, Variables.set, hname,
    Dictionary.keys, Dictionary.insert]

/-- A frame leaves the scope as it was, if its body leaves the frame as it was. -/
theorem inFrame_of_ok {scope : Scope} {given : List (String × Value)} {body : List Node}
    {step : Rendering String} {text : String}
    (hstep : step (scope.enter given body) = .ok (text, scope.enter given body)) :
    inFrame given body step scope = .ok (text, scope) := by
  change Except.bind (step (scope.enter given body)) _ = _
  rw [hstep]
  rfl

/-- A loop over a list gives the texts of its rounds. -/
theorem gives_loop {scope : Scope} {name : String} {values : Expression} {body : List Node}
    {items : List Json} {texts : List String}
    (hvalues : evaluate values scope = .ok (.plain (.array items), scope))
    (hunused : usesFirst loopName body = false)
    (hrounds : List.Forall₂ (fun item text =>
      renderNodes body (scope.enter [(name, .plain item)] body) =
        .ok (text, scope.enter [(name, .plain item)] body)) items texts) :
    Gives scope (.loop name values body) (String.join texts) := by
  have hall : ((items.map Value.plain).mapM fun value =>
      inFrame [(name, value)] body (renderNodes body)) scope = .ok (texts, scope) := by
    clear hvalues
    induction hrounds with
    | nil => rfl
    | cons hround _ ih =>
      rw [List.map_cons, List.mapM_cons, bind_of_ok (inFrame_of_ok hround), bind_of_ok ih]
      rfl
  have hfeed : (liftM (feedOf (.plain (.array items))) : Rendering Feed) scope =
      .ok (.values (items.map .plain), scope) := rfl
  unfold Gives
  rw [renderNode, walkOver, bind_of_ok hvalues, bind_of_ok hfeed, hunused,
    if_neg Bool.false_ne_true]
  dsimp only
  rw [bind_of_ok hall]
  rfl

/-! ### Templates -/

/-- A template that does not ask for itself is one frame, entered with nothing. -/
theorem fill_of_unused {template : String} {nodes : List Node} {context : List (String × Json)}
    (hfree : Dictionary.get? selfName context = none)
    (hunused : usesFirst selfName nodes = false) :
    fill template nodes context =
      (renderNodes nodes (Scope.enter { context := contextValue? context } [] nodes)).map
        Prod.fst := by
  unfold fill
  simp only [hfree, hunused, Option.isSome_none, Bool.false_eq_true, if_false]
  change Except.map Prod.fst (Except.bind (renderNodes nodes
    (Scope.enter { context := contextValue? context } [] nodes)) _) = _
  cases renderNodes nodes (Scope.enter { context := contextValue? context } [] nodes) <;> rfl

end EngineBindings.Template
