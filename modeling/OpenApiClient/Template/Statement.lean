import OpenApiClient.Template.Expression
import OpenApiClient.Template.Piece

/-!
# Statements of templates

A statement opens a block, turns to another branch of one, or closes it.  `Template.ofText?` reads
a template: it cuts the text into pieces, reads their expressions and statements, and puts every
block together.  It knows loops, choices and snippets; a text with any other statement is not well
formed for it.
-/

namespace OpenApiClient.Template

inductive Statement where
  | openLoop (name : String) (items : Expr)
  | openChoice (condition : Expr)
  | openSnippet (name : String) (params : List String)
  | elseIf (condition : Expr)
  | otherwise
  | closeLoop
  | closeChoice
  | closeSnippet

def paramNames? : List Token → Option (List String)
  | [.symbol ")"] => some []
  | [.word name, .symbol ")"] => some [name]
  | .word name :: .symbol "," :: rest => (paramNames? rest).map (name :: ·)
  | _ => none

def Statement.ofTokens? : List Token → Option Statement
  | .word "for" :: .word name :: .word "in" :: rest => (wholeExpression? rest).map (.openLoop name)
  | .word "if" :: rest => (wholeExpression? rest).map .openChoice
  | .word "macro" :: .word name :: .symbol "(" :: rest =>
    (paramNames? rest).map (.openSnippet name)
  | .word "elif" :: rest => (wholeExpression? rest).map .elseIf
  | [.word "else"] => some .otherwise
  | [.word "endfor"] => some .closeLoop
  | [.word "endif"] => some .closeChoice
  | [.word "endmacro"] => some .closeSnippet
  | _ => none

mutual

/-- Reads nodes up to the first statement that neither stands alone nor opens a block.  Gives the
nodes, that statement if there is one, and the pieces after it. -/
def readNodes? (steps : Nat) (pieces : List Piece) :
    Option (List Node × Option Statement × List Piece) :=
  match steps with
  | 0 => none
  | steps + 1 =>
    match pieces with
    | [] => some ([], none, [])
    | .text text :: rest => readNodesAfter? steps (.text text) rest
    | .print tokens :: rest => do
      let value ← wholeExpression? tokens
      readNodesAfter? steps (.print value) rest
    | .statement tokens :: rest => do
      match ← Statement.ofTokens? tokens with
      | .openLoop name items =>
        let (node, rest) ← readLoop? steps name items rest
        readNodesAfter? steps node rest
      | .openChoice condition =>
        let (node, rest) ← readChoice? steps condition rest
        readNodesAfter? steps node rest
      | .openSnippet name params =>
        let (node, rest) ← readSnippet? steps name params rest
        readNodesAfter? steps node rest
      | stop => some ([], some stop, rest)

def readNodesAfter? (steps : Nat) (node : Node) (pieces : List Piece) :
    Option (List Node × Option Statement × List Piece) :=
  match steps with
  | 0 => none
  | steps + 1 => do
    let (nodes, stop, rest) ← readNodes? steps pieces
    return (node :: nodes, stop, rest)

def readLoop? (steps : Nat) (name : String) (items : Expr) (pieces : List Piece) :
    Option (Node × List Piece) :=
  match steps with
  | 0 => none
  | steps + 1 => do
    match ← readNodes? steps pieces with
    | (body, some .closeLoop, rest) => return (.loop name items body [], rest)
    | (body, some .otherwise, rest) =>
      match ← readNodes? steps rest with
      | (otherwise, some .closeLoop, rest) => return (.loop name items body otherwise, rest)
      | _ => none
    | _ => none

def readChoice? (steps : Nat) (condition : Expr) (pieces : List Piece) :
    Option (Node × List Piece) :=
  match steps with
  | 0 => none
  | steps + 1 => do
    match ← readNodes? steps pieces with
    | (body, some .closeChoice, rest) => return (.choice condition body [], rest)
    | (body, some (.elseIf other), rest) =>
      let (node, rest) ← readChoice? steps other rest
      return (.choice condition body [node], rest)
    | (body, some .otherwise, rest) =>
      match ← readNodes? steps rest with
      | (otherwise, some .closeChoice, rest) => return (.choice condition body otherwise, rest)
      | _ => none
    | _ => none

def readSnippet? (steps : Nat) (name : String) (params : List String) (pieces : List Piece) :
    Option (Node × List Piece) :=
  match steps with
  | 0 => none
  | steps + 1 => do
    match ← readNodes? steps pieces with
    | (body, some .closeSnippet, rest) => return (.snippet name params body, rest)
    | _ => none

end

/-- The template in a text; none if the text is not well formed.  Every second step takes a
piece. -/
def ofText? (text : String) : Option Template := do
  let pieces ← pieces? text.toList
  match ← readNodes? (3 * pieces.length + 3) pieces with
  | (nodes, none, _) => return nodes
  | _ => none

end OpenApiClient.Template
