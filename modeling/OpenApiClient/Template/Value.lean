import OpenApiClient.Template.Basic
import OpenApiClient.Text.Visible

/-!
# Values in templates

What a template computes with while it is rendered: data, snippets with the names they can see, or
nothing at all.
-/

namespace OpenApiClient.Template

inductive Value where
  /-- What a name stands for that is bound to nothing. -/
  | undefined
  | data (value : Json)
  /-- A snippet, with the bindings at the place where it is defined. -/
  | snippet (name : String) (params : List String) (body : List Node)
    (scope : List (String × Value))

instance : Inhabited Value := ⟨.undefined⟩

/-- The bindings of names, the innermost first. -/
abbrev Scope := List (String × Value)

inductive EvalError where
  /-- A part of something undefined is asked for. -/
  | undefinedTarget
  | unknownFilter (name : String)
  | wrongArguments
  | notCallable
  | notIterable
  | noLength
  | nestedTooDeep
  /-- Another reason, in the words of an engine that has more of them. -/
  | other (message : String)
  deriving DecidableEq, Repr

mutual

def innerText : Json → String
  | .null => "None"
  | .bool value => if value then "True" else "False"
  | .number value => value.text
  | .string text => Text.quoteVisible text
  | .array items => "[" ++ ", ".intercalate (innerTexts items) ++ "]"
  | .object entries => "\x7b" ++ ", ".intercalate (entryTexts entries) ++ "\x7d"

def innerTexts : List Json → List String
  | [] => []
  | item :: items => innerText item :: innerTexts items

def entryTexts : List (String × Json) → List String
  | [] => []
  | (key, value) :: entries =>
    (Text.quoteVisible key ++ ": " ++ innerText value) :: entryTexts entries

end

mutual

/-- Whether two data are the same.  Truth values count as one and zero among numbers, and the order
of the entries of a mapping does not matter. -/
def sameData : Json → Json → Bool
  | .null, .null => true
  | .bool a, .bool b => a == b
  | .bool a, .number (.integer b) => (if a then 1 else 0) == b
  | .number (.integer a), .bool b => a == (if b then 1 else 0)
  | .number a, .number b => a == b
  | .string a, .string b => a == b
  | .array a, .array b => sameItems a b
  | .object a, .object b => a.length == b.length && sameEntries a b
  | _, _ => false

def sameItems : List Json → List Json → Bool
  | [], [] => true
  | a :: as, b :: bs => sameData a b && sameItems as bs
  | _, _ => false

/-- Whether all these entries are among the others. -/
def sameEntries : List (String × Json) → Entries Json → Bool
  | [], _ => true
  | (key, value) :: entries, others =>
    (match Entries.get? key others with
      | some other => sameData value other
      | none => false) && sameEntries entries others

end

def isTrueData : Json → Bool
  | .null => false
  | .bool value => value
  | .number (.integer value) => value != 0
  | .number (.real value) => value.toFloat != 0
  | .string text => !text.isEmpty
  | .array items => !items.isEmpty
  | .object entries => !entries.isEmpty

namespace Value

def ofText (text : String) : Value := .data (.string text)

def ofBool (value : Bool) : Value := .data (.bool value)

def text : Value → String
  | undefined => ""
  | data (.string text) => text
  | data value => innerText value
  | snippet name .. => "<macro " ++ name ++ ">"

def isTrue : Value → Bool
  | undefined => false
  | data value => isTrueData value
  | snippet .. => true

/-- Whether two values are the same.  A snippet is the same as none. -/
def same : Value → Value → Bool
  | undefined, undefined => true
  | data a, data b => sameData a b
  | _, _ => false

/-- The part of a value under a name. -/
def part (target : Value) (name : String) : Except EvalError Value :=
  match target with
  | undefined => .error .undefinedTarget
  | data value => .ok ((value.field? name).elim undefined data)
  | snippet .. => .ok undefined

/-- The item of a list, counted from the end if the index is negative. -/
def listItem (items : List Json) (index : Int) : Value :=
  let place := if index < 0 then index + items.length else index
  if place < 0 then undefined else (items[place.toNat]?).elim undefined data

/-- The part of a value at an index. -/
def item (target index : Value) : Except EvalError Value :=
  match target, index with
  | undefined, _ => .error .undefinedTarget
  | data (.array items), data (.number (.integer index)) => .ok (listItem items index)
  | data (.object entries), data (.string key) =>
    .ok ((Entries.get? key entries).elim undefined data)
  | _, _ => .ok undefined

/-- What a loop over a value runs through: the items of a list, the keys of a mapping, the
characters of a text, and nothing for what is absent. -/
def items : Value → Except EvalError (List Json)
  | undefined => .ok []
  | data .null => .ok []
  | data (.array items) => .ok items
  | data (.object entries) => .ok (entries.map fun entry => .string entry.1)
  | data (.string text) => .ok (text.toList.map fun c => .string (String.singleton c))
  | _ => .error .notIterable

end Value
end OpenApiClient.Template
