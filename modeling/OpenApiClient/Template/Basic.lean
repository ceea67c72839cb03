import OpenApiClient.Json.Basic

/-!
# Templates

A template is literal text mixed with values to print, loops over lists, choices, and definitions
of snippets that can be printed like functions.
-/

namespace OpenApiClient

namespace Template

/-- What a template computes with. -/
inductive Expr where
  | literal (value : Json)
  | named (name : String)
  | part (target : Expr) (name : String)
  | item (target index : Expr)
  | filtered (target : Expr) (filter : String) (args : List Expr)
  | call (target : Expr) (args : List Expr)
  | joined (left right : Expr)
  | equal (left right : Expr)
  | unequal (left right : Expr)
  | negation (operand : Expr)
  | both (left right : Expr)
  | either (left right : Expr)

inductive Node where
  | text (text : String)
  | print (value : Expr)
  /-- Renders `body` for every item, or `otherwise` if there is none. -/
  | loop (name : String) (items : Expr) (body otherwise : List Node)
  | choice (condition : Expr) (body otherwise : List Node)
  /-- Binds a name to a part of the template with parameters. -/
  | snippet (name : String) (params : List String) (body : List Node)

end Template

abbrev Template := List Template.Node

end OpenApiClient
