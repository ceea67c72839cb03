import OpenApiClient.Template.Filter

/-!
# Rendering templates

How a template becomes text (`Template.render`).  What a snippet prints is left to a function while
the expressions and nodes are gone through; `callWithin` is that function, for snippets that print
one another up to a given depth.
-/

namespace OpenApiClient.Template

/-- How a value is called with arguments. -/
abbrev Caller := Value → List Value → Except EvalError Value

def Scope.value (scope : Scope) (name : String) : Value :=
  match List.lookup name scope with
  | some value => value
  | none => .undefined

mutual

def Expr.eval (call : Caller) (scope : Scope) : Expr → Except EvalError Value
  | .literal value => .ok (.data value)
  | .named name => .ok (scope.value name)
  | .part target name => do (← target.eval call scope).part name
  | .item target index => do (← target.eval call scope).item (← index.eval call scope)
  | .filtered target filter args => do
    applyFilter filter (← target.eval call scope) (← evalAll call scope args)
  | .call target args => do call (← target.eval call scope) (← evalAll call scope args)
  | .joined left right => do
    return .ofText ((← left.eval call scope).text ++ (← right.eval call scope).text)
  | .equal left right => do
    return .ofBool ((← left.eval call scope).same (← right.eval call scope))
  | .unequal left right => do
    return .ofBool !((← left.eval call scope).same (← right.eval call scope))
  | .negation operand => do return .ofBool !(← operand.eval call scope).isTrue
  | .both left right => do
    let value ← left.eval call scope
    if value.isTrue then right.eval call scope else return value
  | .either left right => do
    let value ← left.eval call scope
    if value.isTrue then return value else right.eval call scope

def evalAll (call : Caller) (scope : Scope) : List Expr → Except EvalError (List Value)
  | [] => .ok []
  | expr :: exprs => do
    let value ← expr.eval call scope
    return value :: (← evalAll call scope exprs)

end

/-- What a loop says of its current pass, out of `count`, and of the items before and after. -/
def loopState (count place : Nat) (before after : Option Json) : Json :=
  .object ([
    ("index", .ofNat (place + 1)),
    ("index0", .ofNat place),
    ("revindex", .ofNat (count - place)),
    ("revindex0", .ofNat (count - place - 1)),
    ("first", .bool (place == 0)),
    ("last", .bool (place + 1 == count)),
    ("length", .ofNat count),
    ("depth", .ofNat 1),
    ("depth0", .ofNat 0)] ++
    before.toList.map (("previtem", ·)) ++ after.toList.map (("nextitem", ·)))

/-- The bindings for every pass of a loop, from the pass at `place` on, where `before` is the item
of the pass before it. -/
def passes (name : String) (scope : Scope) (count place : Nat) (before : Option Json) :
    List Json → List Scope
  | [] => []
  | item :: items =>
    let state := loopState count place before items.head?
    ((name, .data item) :: ("loop", .data state) :: scope) ::
      passes name scope count (place + 1) (some item) items

mutual

/-- Renders a node.  Gives its text, and the bindings for the nodes after it. -/
def renderNode (call : Caller) (scope : Scope) : Node → Except EvalError (String × Scope)
  | .text text => .ok (text, scope)
  | .print value => do return ((← value.eval call scope).text, scope)
  | .loop name items body otherwise => do
    match ← (← items.eval call scope).items with
    | [] => return ((← renderNodes call scope otherwise).1, scope)
    | items =>
      let texts ← (passes name scope items.length 0 none items).mapM fun inner =>
        Prod.fst <$> renderNodes call inner body
      return (String.join texts, scope)
  | .choice condition body otherwise => do
    if (← condition.eval call scope).isTrue then renderNodes call scope body
    else renderNodes call scope otherwise
  | .snippet name params body => .ok ("", (name, .snippet name params body scope) :: scope)

def renderNodes (call : Caller) (scope : Scope) : List Node → Except EvalError (String × Scope)
  | [] => .ok ("", scope)
  | node :: nodes => do
    let (first, scope) ← renderNode call scope node
    let (rest, scope) ← renderNodes call scope nodes
    return (first ++ rest, scope)

end

/-- The bindings of parameters to arguments; those without an argument are undefined. -/
def bindArgs : List String → List Value → Scope
  | [], _ => []
  | name :: names, [] => (name, .undefined) :: bindArgs names []
  | name :: names, arg :: args => (name, arg) :: bindArgs names args

/-- Calls a snippet, which may call others and itself up to a depth. -/
def callWithin : Nat → Caller
  | 0, _, _ => .error .nestedTooDeep
  | depth + 1, .snippet name params body scope, args => do
    if params.length < args.length then throw .wrongArguments
    let inner := bindArgs params args ++ (name, .snippet name params body scope) :: scope
    return .ofText (← renderNodes (callWithin depth) inner body).1
  | _, _, _ => .error .notCallable

def maxDepth : Nat := 120

def render (template : Template) (entries : Entries Json) : Except EvalError String :=
  let scope := entries.map fun (name, value) => (name, .data value)
  Prod.fst <$> renderNodes (callWithin maxDepth) scope template

end OpenApiClient.Template
