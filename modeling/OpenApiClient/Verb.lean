/-!
# Verbs

The request methods that an operation of a document can be bound to.
-/

namespace OpenApiClient

inductive Verb where
  | get
  | post
  | put
  | delete
  | patch
  | options
  | head
  | trace
  deriving DecidableEq, Repr

namespace Verb

def all : List Verb := [get, post, put, delete, patch, options, head, trace]

/-- The verb in capital letters, as it is sent. -/
def text : Verb → String
  | get => "GET"
  | post => "POST"
  | put => "PUT"
  | delete => "DELETE"
  | patch => "PATCH"
  | options => "OPTIONS"
  | head => "HEAD"
  | trace => "TRACE"

/-- The verb in small letters, as it stands as a key of a path item. -/
def key : Verb → String
  | get => "get"
  | post => "post"
  | put => "put"
  | delete => "delete"
  | patch => "patch"
  | options => "options"
  | head => "head"
  | trace => "trace"

/-- The verb that a text names, in any mixture of small and capital ASCII letters. -/
def ofText? (text : String) : Option Verb :=
  all.find? fun verb => verb.text.toList = text.toList.map Char.toUpper

end Verb
end OpenApiClient
