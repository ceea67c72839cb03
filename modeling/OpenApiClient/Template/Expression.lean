import OpenApiClient.Template.Basic
import OpenApiClient.Template.Token

/-!
# Expressions of templates

How the tokens of a tag are read as an expression.  From the loosest to the tightest the operators
are `or`, `and`, `not`, the two comparisons, `~`, and after an operand its attributes, items,
arguments and filters.
-/

namespace OpenApiClient.Template

/-- How tightly an operator binds. -/
inductive Level where
  | disjunction
  | conjunction
  | negation
  | comparison
  | concatenation
  | operand
  deriving DecidableEq, Repr

def constant? (word : String) : Option Json :=
  if word = "true" ∨ word = "True" then some (.bool true)
  else if word = "false" ∨ word = "False" then some (.bool false)
  else if word = "none" ∨ word = "None" then some .null
  else none

def isOperatorWord (word : String) : Bool := word == "or" || word == "and" || word == "not"

/-- A reader that takes some of the tokens. -/
abbrev Reading (α : Type) := List Token → Option (α × List Token)

mutual

/-- Reads an expression of a level or a tighter one. -/
def readExpr? (steps : Nat) (level : Level) : Reading Expr := fun tokens =>
  match steps with
  | 0 => none
  | steps + 1 =>
    match level with
    | .disjunction => do
      let (left, rest) ← readExpr? steps .conjunction tokens
      readMore? steps .disjunction left rest
    | .conjunction => do
      let (left, rest) ← readExpr? steps .negation tokens
      readMore? steps .conjunction left rest
    | .negation =>
      match tokens with
      | .word "not" :: rest => do
        let (operand, rest) ← readExpr? steps .negation rest
        return (.negation operand, rest)
      | tokens => readExpr? steps .comparison tokens
    | .comparison => do
      let (left, rest) ← readExpr? steps .concatenation tokens
      readMore? steps .comparison left rest
    | .concatenation => do
      let (left, rest) ← readExpr? steps .operand tokens
      readMore? steps .concatenation left rest
    | .operand => do
      let (operand, rest) ← readOperand? steps tokens
      readMore? steps .operand operand rest

def readMore? (steps : Nat) (level : Level) (left : Expr) : Reading Expr := fun tokens =>
  match steps with
  | 0 => none
  | steps + 1 =>
    match level, tokens with
    | .disjunction, .word "or" :: rest => do
      let (right, rest) ← readExpr? steps .conjunction rest
      readMore? steps level (.either left right) rest
    | .conjunction, .word "and" :: rest => do
      let (right, rest) ← readExpr? steps .negation rest
      readMore? steps level (.both left right) rest
    | .comparison, .symbol "==" :: rest => do
      let (right, rest) ← readExpr? steps .concatenation rest
      readMore? steps level (.equal left right) rest
    | .comparison, .symbol "!=" :: rest => do
      let (right, rest) ← readExpr? steps .concatenation rest
      readMore? steps level (.unequal left right) rest
    | .concatenation, .symbol "~" :: rest => do
      let (right, rest) ← readExpr? steps .operand rest
      readMore? steps level (.joined left right) rest
    | .operand, .symbol "." :: .word name :: rest => readMore? steps level (.part left name) rest
    | .operand, .symbol "." :: _ => none
    | .operand, .symbol "[" :: rest => do
      let (index, rest) ← readExpr? steps .disjunction rest
      match rest with
      | .symbol "]" :: rest => readMore? steps level (.item left index) rest
      | _ => none
    | .operand, .symbol "(" :: rest => do
      let (args, rest) ← readArgs? steps rest
      readMore? steps level (.call left args) rest
    | .operand, .symbol "|" :: .word name :: .symbol "(" :: rest => do
      let (args, rest) ← readArgs? steps rest
      readMore? steps level (.filtered left name args) rest
    | .operand, .symbol "|" :: .word name :: rest =>
      readMore? steps level (.filtered left name []) rest
    | .operand, .symbol "|" :: _ => none
    | _, tokens => some (left, tokens)

def readOperand? (steps : Nat) : Reading Expr := fun tokens =>
  match steps with
  | 0 => none
  | steps + 1 =>
    match tokens with
    | .word word :: rest =>
      if isOperatorWord word then none
      else
        match constant? word with
        | some value => some (.literal value, rest)
        | none => some (.named word, rest)
    | .quoted text :: rest => some (.literal (.string text), rest)
    | .whole value :: rest => some (.literal (.ofNat value), rest)
    | .symbol "-" :: .whole value :: rest =>
      some (.literal (.number (.integer (-(value : Int)))), rest)
    | .symbol "(" :: rest => do
      let (inner, rest) ← readExpr? steps .disjunction rest
      match rest with
      | .symbol ")" :: rest => some (inner, rest)
      | _ => none
    | _ => none

def readArgs? (steps : Nat) : Reading (List Expr) := fun tokens =>
  match steps with
  | 0 => none
  | steps + 1 =>
    match tokens with
    | .symbol ")" :: rest => some ([], rest)
    | tokens => do
      let (arg, rest) ← readExpr? steps .disjunction tokens
      match rest with
      | .symbol ")" :: rest => some ([arg], rest)
      | .symbol "," :: rest => do
        let (args, rest) ← readArgs? steps rest
        return (arg :: args, rest)
      | _ => none

end

/-- Reads an expression at the beginning of some tokens.  Between two tokens there are at most
eight steps. -/
def expression? : Reading Expr := fun tokens =>
  readExpr? (8 * (tokens.length + 1)) .disjunction tokens

def wholeExpression? (tokens : List Token) : Option Expr :=
  match expression? tokens with
  | some (value, []) => some value
  | _ => none

end OpenApiClient.Template
