import OpenApiClient.Proofs.Results
import OpenApiClient.Template.Rendering

/-!
# What nodes print

A node that prints a text and binds no name (`Template.Prints`), and nodes that do so one after the
other (`Template.PrintsAll`), with one rule for each kind of node and each kind of expression.
-/

namespace OpenApiClient.Template

theorem Scope.value_cons (name other : String) (value : Value) (scope : Scope) :
    Scope.value ((name, value) :: scope) other =
      if other = name then value else scope.value other := by
  rw [Scope.value, Scope.value, List.lookup_cons]
  by_cases h : other = name
  · simp [h]
  · simp [h, beq_eq_false_iff_ne.mpr h]

/-! ## Texts -/

variable {call : Caller} {scope : Scope}

/-- A node prints a text and binds no name. -/
def Prints (call : Caller) (scope : Scope) (node : Node) (text : String) : Prop :=
  renderNode call scope node = .ok (text, scope)

def PrintsAll (call : Caller) (scope : Scope) (nodes : List Node) (text : String) : Prop :=
  renderNodes call scope nodes = .ok (text, scope)

theorem prints_text (text : String) : Prints call scope (.text text) text := rfl

theorem prints_print {expr : Expr} {value : Value} (h : expr.eval call scope = .ok value) :
    Prints call scope (.print expr) value.text := by
  change (expr.eval call scope >>= _) = _
  rw [h]
  rfl

theorem prints_string {expr : Expr} {text : String}
    (h : expr.eval call scope = .ok (.data (.string text))) :
    Prints call scope (.print expr) text :=
  prints_print h

theorem prints_then {condition : Expr} {value : Value} {body otherwise : List Node}
    {text : String} (h : condition.eval call scope = .ok value) (htrue : value.isTrue = true)
    (hbody : PrintsAll call scope body text) :
    Prints call scope (.choice condition body otherwise) text := by
  change (condition.eval call scope >>= _) = _
  rw [h]
  change (if value.isTrue = true then renderNodes call scope body
    else renderNodes call scope otherwise) = _
  rwa [if_pos htrue]

theorem prints_else {condition : Expr} {value : Value} {body otherwise : List Node}
    {text : String} (h : condition.eval call scope = .ok value) (hfalse : value.isTrue = false)
    (hotherwise : PrintsAll call scope otherwise text) :
    Prints call scope (.choice condition body otherwise) text := by
  change (condition.eval call scope >>= _) = _
  rw [h]
  change (if value.isTrue = true then renderNodes call scope body
    else renderNodes call scope otherwise) = _
  rwa [hfalse, if_neg Bool.false_ne_true]

theorem prints_choice {condition : Expr} {flag : Bool} {body otherwise : List Node}
    {text other : String} (h : condition.eval call scope = .ok (.ofBool flag))
    (hbody : PrintsAll call scope body text) (hotherwise : PrintsAll call scope otherwise other) :
    Prints call scope (.choice condition body otherwise) (if flag then text else other) := by
  cases flag with
  | true => exact prints_then h rfl hbody
  | false => exact prints_else h rfl hotherwise

theorem prints_loop {name : String} {expr : Expr} {value : Value} {items : List Json}
    {body otherwise : List Node} {texts : List String} (h : expr.eval call scope = .ok value)
    (hitems : value.items = .ok items) (hne : items ≠ [])
    (hbody : List.Forall₂ (fun inner text => PrintsAll call inner body text)
      (passes name scope items.length 0 none items) texts) :
    Prints call scope (.loop name expr body otherwise) (String.join texts) := by
  have hpasses : (passes name scope items.length 0 none items).mapM
      (fun inner => Prod.fst <$> renderNodes call inner body) = .ok texts := by
    refine Except.mapM_eq_ok.mpr (hbody.imp fun inner text htext => ?_)
    rw [show renderNodes call inner body = .ok (text, inner) from htext]
    rfl
  change (expr.eval call scope >>= _) = _
  rw [h]
  change (value.items >>= _) = _
  rw [hitems]
  cases items with
  | nil => exact absurd rfl hne
  | cons item items =>
      exact congrArg (· >>= fun texts => .ok (String.join texts, scope)) hpasses

theorem prints_loop_otherwise {name : String} {expr : Expr} {value : Value}
    {body otherwise : List Node} {text : String} (h : expr.eval call scope = .ok value)
    (hitems : value.items = .ok []) (hotherwise : PrintsAll call scope otherwise text) :
    Prints call scope (.loop name expr body otherwise) text := by
  change (expr.eval call scope >>= _) = _
  rw [h]
  change (value.items >>= _) = _
  rw [hitems]
  change (renderNodes call scope otherwise >>= _) = _
  rw [show renderNodes call scope otherwise = .ok (text, scope) from hotherwise]
  rfl

theorem printsAll_nil : PrintsAll call scope [] "" := rfl

theorem printsAll_cons {node : Node} {nodes : List Node} {first rest : String}
    (h : Prints call scope node first) (hrest : PrintsAll call scope nodes rest) :
    PrintsAll call scope (node :: nodes) (first ++ rest) := by
  change (renderNode call scope node >>= _) = _
  rw [show renderNode call scope node = .ok (first, scope) from h]
  change (renderNodes call scope nodes >>= _) = _
  rw [show renderNodes call scope nodes = .ok (rest, scope) from hrest]
  rfl

theorem printsAll_singleton {node : Node} {text : String} (h : Prints call scope node text) :
    PrintsAll call scope [node] text := by
  simpa only [String.append_empty] using printsAll_cons h printsAll_nil

/-- Nodes print the texts that they print one by one. -/
theorem printsAll_of_forall₂ {nodes : List Node} {texts : List String}
    (h : List.Forall₂ (Prints call scope) nodes texts) :
    PrintsAll call scope nodes (String.join texts) := by
  induction h with
  | nil => exact printsAll_nil
  | cons hnode _ ih =>
      rw [String.join_cons]
      exact printsAll_cons hnode ih

theorem renderNodes_cons_eq_ok {node : Node} {nodes : List Node} {result : String × Scope} :
    renderNodes call scope (node :: nodes) = .ok result ↔ ∃ first inner rest last,
      renderNode call scope node = .ok (first, inner) ∧
        renderNodes call inner nodes = .ok (rest, last) ∧ (first ++ rest, last) = result := by
  change (renderNode call scope node >>= _) = _ ↔ _
  rw [Except.bind_eq_ok]
  simp only [Except.bind_eq_ok, Prod.exists]
  constructor
  · rintro ⟨first, inner, hnode, rest, last, hrest, h⟩
    exact ⟨first, inner, rest, last, hnode, hrest, Except.ok.inj h⟩
  · rintro ⟨first, inner, rest, last, hnode, hrest, rfl⟩
    exact ⟨first, inner, hnode, rest, last, hrest, rfl⟩

/-- Nodes after others see the names that those have bound. -/
theorem renderNodes_append {nodes others : List Node} {first rest : String} {inner last : Scope}
    (h : renderNodes call scope nodes = .ok (first, inner))
    (hrest : renderNodes call inner others = .ok (rest, last)) :
    renderNodes call scope (nodes ++ others) = .ok (first ++ rest, last) := by
  induction nodes generalizing scope first with
  | nil =>
      obtain ⟨rfl, rfl⟩ := Prod.mk.inj (Except.ok.inj h)
      rwa [List.nil_append, String.empty_append]
  | cons node nodes ih =>
      obtain ⟨first, middle, second, inner, hnode, hnodes, heq⟩ := renderNodes_cons_eq_ok.mp h
      obtain ⟨rfl, rfl⟩ := Prod.mk.inj heq
      refine renderNodes_cons_eq_ok.mpr ⟨first, middle, second ++ rest, last, hnode, ?_, ?_⟩
      · exact ih hnodes
      · rw [String.append_assoc]

theorem printsAll_append {nodes others : List Node} {first rest : String}
    (h : PrintsAll call scope nodes first) (hrest : PrintsAll call scope others rest) :
    PrintsAll call scope (nodes ++ others) (first ++ rest) :=
  renderNodes_append h hrest

/-! ## Values -/

theorem eval_literal (value : Json) :
    (Expr.literal value).eval call scope = .ok (.data value) := rfl

theorem eval_named {name : String} {value : Value} (h : scope.value name = value) :
    (Expr.named name).eval call scope = .ok value :=
  congrArg Except.ok h

theorem eval_part {target : Expr} {value : Json} (h : target.eval call scope = .ok (.data value))
    (name : String) : (Expr.part target name).eval call scope =
      .ok ((value.field? name).elim .undefined .data) := by
  change (target.eval call scope >>= _) = _
  rw [h]
  rfl

theorem eval_field {target : Expr} {value field : Json} (name : String)
    (h : target.eval call scope = .ok (.data value)) (hfield : value.field? name = some field) :
    (Expr.part target name).eval call scope = .ok (.data field) := by
  rw [eval_part h, hfield]
  rfl

theorem eval_length {expr : Expr} {items : List Json}
    (h : expr.eval call scope = .ok (.data (.array items))) :
    (Expr.filtered expr "length" []).eval call scope = .ok (.data (.ofNat items.length)) := by
  change (expr.eval call scope >>= _) = _
  rw [h]
  rfl

theorem eval_equal {left right : Expr} {value value' : Value}
    (h : left.eval call scope = .ok value) (h' : right.eval call scope = .ok value') :
    (Expr.equal left right).eval call scope = .ok (.ofBool (value.same value')) := by
  change (left.eval call scope >>= _) = _
  rw [h]
  change (right.eval call scope >>= _) = _
  rw [h']
  rfl

theorem eval_equal_literal {expr : Expr} {text : String} (word : String)
    (h : expr.eval call scope = .ok (.data (.string text))) :
    (expr.equal (.literal (.string word))).eval call scope = .ok (.ofBool (text == word)) :=
  eval_equal h (eval_literal _)

theorem evalAll_eq_ok {exprs : List Expr} {values : List Value}
    (h : List.Forall₂ (fun expr value => expr.eval call scope = .ok value) exprs values) :
    evalAll call scope exprs = .ok values := by
  induction h with
  | nil => rfl
  | @cons expr _ exprs _ hexpr _ ih =>
      change (expr.eval call scope >>= _) = _
      rw [hexpr]
      change (evalAll call scope exprs >>= _) = _
      rw [ih]
      rfl

theorem eval_call {target : Expr} {value : Value} {args : List Expr} {values : List Value}
    (h : target.eval call scope = .ok value)
    (hargs : List.Forall₂ (fun expr value => expr.eval call scope = .ok value) args values) :
    (Expr.call target args).eval call scope = call value values := by
  change (target.eval call scope >>= _) = _
  rw [h]
  change (evalAll call scope args >>= _) = _
  rw [evalAll_eq_ok hargs]
  rfl

theorem eval_joined {left right : Expr} {value value' : Value}
    (h : left.eval call scope = .ok value) (h' : right.eval call scope = .ok value') :
    (Expr.joined left right).eval call scope = .ok (.ofText (value.text ++ value'.text)) := by
  change (left.eval call scope >>= _) = _
  rw [h]
  change (right.eval call scope >>= _) = _
  rw [h']
  rfl

theorem eval_negation {operand : Expr} {value : Value} (h : operand.eval call scope = .ok value) :
    operand.negation.eval call scope = .ok (.ofBool !value.isTrue) := by
  change (operand.eval call scope >>= _) = _
  rw [h]
  rfl

theorem eval_either {left right : Expr} {value value' : Value}
    (h : left.eval call scope = .ok value) (h' : right.eval call scope = .ok value') :
    (Expr.either left right).eval call scope = .ok (if value.isTrue then value else value') := by
  change (left.eval call scope >>= _) = _
  rw [h]
  change (if value.isTrue then pure value else right.eval call scope) = _
  rw [h']
  split_ifs <;> rfl

theorem eval_both {left right : Expr} {value value' : Value}
    (h : left.eval call scope = .ok value) (h' : right.eval call scope = .ok value') :
    (Expr.both left right).eval call scope = .ok (if value.isTrue then value' else value) := by
  change (left.eval call scope >>= _) = _
  rw [h]
  change (if value.isTrue then right.eval call scope else pure value) = _
  rw [h']
  split_ifs <;> rfl

theorem eval_escaped {target : Expr} {value : Value} (h : target.eval call scope = .ok value) :
    (Expr.filtered target "escape_jsdoc" []).eval call scope =
      .ok (.ofText (String.ofList (escapeCommentEnds value.text.toList))) := by
  change (target.eval call scope >>= _) = _
  rw [h]
  rfl

theorem prints_escaped {target : Expr} {text : String}
    (h : target.eval call scope = .ok (.data (.string text))) :
    Prints call scope (.print (.filtered target "escape_jsdoc" []))
      (String.ofList (escapeCommentEnds text.toList)) := by
  have hescaped := eval_escaped h
  rw [show (Value.data (.string text)).text = text from rfl] at hescaped
  exact prints_string hescaped

theorem prints_join {expr : Expr} {texts : List String} (separator : String)
    (h : expr.eval call scope = .ok (.data (.ofStrings texts))) :
    Prints call scope (.print (.filtered expr "join" [.literal (.string separator)]))
      (joinTexts separator texts) := by
  have hitems : (texts.map Json.string).map (fun item => (Value.data item).text) = texts := by
    rw [List.map_map]
    exact List.map_id' texts
  have hjoined : (Expr.filtered expr "join" [.literal (.string separator)]).eval call scope =
      .ok (.data (.string (joinTexts separator
        ((texts.map Json.string).map fun item => (Value.data item).text)))) := by
    change (expr.eval call scope >>= _) = _
    rw [h]
    rfl
  rw [hitems] at hjoined
  exact prints_string hjoined

/-- The names that a template sees are bound to the fields of a value. -/
def Sees (scope : Scope) (value : Json) : Prop :=
  ∀ name, scope.value name = (value.field? name).elim .undefined .data

theorem sees_entries (entries : Entries Json) :
    Sees (entries.map fun (name, value) => (name, .data value)) (.object entries) := by
  intro other
  induction entries with
  | nil => rfl
  | cons entry entries ih =>
      obtain ⟨name, value⟩ := entry
      rw [List.map_cons, Scope.value_cons, ih]
      simp only [Json.field?, Entries.get?, eq_comm (a := other)]
      split_ifs <;> rfl

theorem Sees.eval_named {value field : Json} {name : String} (h : Sees scope value)
    (hfield : value.field? name = some field) :
    (Expr.named name).eval call scope = .ok (.data field) := by
  change Except.ok (scope.value name) = _
  rw [h, hfield]
  rfl

/-! ## Loops -/

section Loops

variable {α : Type} {toJson : α → Json} {text : α → String} {name : String} {expr : Expr}
  {items : List α} {body otherwise : List Node}

/-- In every pass of a loop an item is bound, and what is said of the pass. -/
theorem printsAll_passes (place count : Nat) (before : Option Json)
    (hbody : ∀ item ∈ items, ∀ state, PrintsAll call
      ((name, .data (toJson item)) :: ("loop", .data state) :: scope) body (text item)) :
    List.Forall₂ (fun inner text => PrintsAll call inner body text)
      (passes name scope count place before (items.map toJson)) (items.map text) := by
  induction items generalizing place before with
  | nil => exact .nil
  | cons item items ih =>
      rw [List.forall_mem_cons] at hbody
      exact .cons (hbody.1 _) (ih (place + 1) (some (toJson item)) hbody.2)

/-- A loop over some data prints what its body prints for the items. -/
theorem prints_loop_map_of_ne (h : expr.eval call scope = .ok (.data (.array (items.map toJson))))
    (hne : items ≠ [])
    (hbody : ∀ item ∈ items, ∀ state, PrintsAll call
      ((name, .data (toJson item)) :: ("loop", .data state) :: scope) body (text item)) :
    Prints call scope (.loop name expr body otherwise) (String.join (items.map text)) :=
  prints_loop h rfl (by simpa using hne) (printsAll_passes 0 _ none hbody)

theorem prints_loop_map (h : expr.eval call scope = .ok (.data (.array (items.map toJson))))
    (hbody : ∀ item ∈ items, ∀ state, PrintsAll call
      ((name, .data (toJson item)) :: ("loop", .data state) :: scope) body (text item)) :
    Prints call scope (.loop name expr body []) (String.join (items.map text)) := by
  cases items with
  | nil => exact prints_loop_otherwise h rfl printsAll_nil
  | cons item items => exact prints_loop_map_of_ne h (List.cons_ne_nil item items) hbody

end Loops

/-! ## Snippets -/

/-- What a snippet is bound to at the place where it is defined. -/
def Node.bound (scope : Scope) : Node → Value
  | .snippet name params body => .snippet name params body scope
  | _ => .undefined

theorem callWithin_snippet {depth : Nat} {outer : Scope} {name : String} {params : List String}
    {body : List Node} {args : List Value} {text : String} (hlength : args.length ≤ params.length)
    (hbody : PrintsAll (callWithin depth)
      (bindArgs params args ++ (name, .snippet name params body outer) :: outer) body text) :
    callWithin (depth + 1) (.snippet name params body outer) args = .ok (.ofText text) := by
  rw [callWithin, if_neg (Nat.not_lt.mpr hlength)]
  change (renderNodes _ _ _ >>= _) = _
  rw [show renderNodes _ _ _ = _ from hbody]
  rfl

end OpenApiClient.Template
