import OpenApiClient.Json.Basic
import OpenApiClient.Text.Visible

/-!
# Misshapen values

Why a JSON value cannot be read as a part of a document (`ShapeError`), and readers of simple
values that report it.  A part with a fixed list of fields may also be given as an array of them;
such an array is read field by field (`Row`).
-/

namespace OpenApiClient

inductive Expectation where
  | text
  | truth
  | sequence
  | mapping
  | record (name : String)
  deriving DecidableEq, Repr

/-- The name of what is asked for, as messages put it. -/
def Expectation.describe : Expectation → String
  | text => "a string"
  | truth => "a boolean"
  | sequence => "a sequence"
  | mapping => "a map"
  | record name => "struct " ++ name

/-- A value as messages name it. -/
def Json.describe : Json → String
  | .null => "null"
  | .bool true => "boolean `true`"
  | .bool false => "boolean `false`"
  | .number (.integer value) => "integer `" ++ toString value ++ "`"
  | .number (.real value) => "floating point `" ++ value.text ++ "`"
  | .string text => "string " ++ Text.quoteVisible text
  | .array _ => "sequence"
  | .object _ => "map"

inductive ShapeError where
  /-- The value is of another kind than the one asked for. -/
  | wrongKind (found : Json) (expected : Expectation)
  /-- An object lacks a field that has no default. -/
  | missingField (name : String)
  /-- An array of the fields of a record ends too early, after `count` of them. -/
  | tooShort (count : Nat) (name : String) (fields : Nat)
  /-- An array has more items than the record has fields. -/
  | tooLong (count : Nat)
  /-- The value is neither a reference nor a value given in place. -/
  | noVariant (name : String)

def ShapeError.message : ShapeError → String
  | wrongKind found expected =>
    "invalid type: " ++ found.describe ++ ", expected " ++ expected.describe
  | missingField name => "missing field `" ++ name ++ "`"
  | tooShort count name fields =>
    "invalid length " ++ toString count ++ ", expected struct " ++ name ++ " with " ++
      toString fields ++ " elements"
  | tooLong count => "invalid length " ++ toString count ++ ", expected fewer elements in array"
  | noVariant name => "data did not match any variant of untagged enum " ++ name

abbrev Shape (α : Type) := Json → Except ShapeError α

namespace Shape

def text : Shape String
  | .string text => .ok text
  | value => .error (.wrongKind value .text)

def truth : Shape Bool
  | .bool value => .ok value
  | value => .error (.wrongKind value .truth)

def optional {α : Type} (read : Shape α) : Shape (Option α)
  | .null => .ok none
  | value => (read value).map some

def list {α : Type} (read : Shape α) : Shape (List α)
  | .array items => items.mapM read
  | value => .error (.wrongKind value .sequence)

def mapping {α : Type} (read : Shape α) : Shape (Entries α)
  | .object entries => entries.mapM fun (key, value) => (read value).map fun item => (key, item)
  | value => .error (.wrongKind value .mapping)

/-- Reads what has two forms, without a report why neither of them fits. -/
def variant {α : Type} (name : String) (read? : Json → Option α) : Shape α := fun value =>
  match read? value with
  | some item => .ok item
  | none => .error (.noVariant name)

end Shape

/-- Reads the fields of a record from the items of an array. -/
abbrev Row := StateT (List Json) (Except ShapeError)

namespace Row

/-- Reads a field that an array has to hold, after `count` others. -/
def need {α : Type} (name : String) (fields count : Nat) (read : Shape α) : Row α := do
  match ← get with
  | [] => throw (.tooShort count name fields)
  | item :: items =>
    set items
    read item

def default {α : Type} (value : α) (read : Shape α) : Row α := do
  match ← get with
  | [] => pure value
  | item :: items =>
    set items
    read item

/-- Runs a reader of `fields` fields on all the items of an array. -/
def all {α : Type} (row : Row α) (items : List Json) : Except ShapeError α := do
  let (record, rest) ← row.run items
  if rest.isEmpty then pure record else throw (.tooLong items.length)

end Row
end OpenApiClient
