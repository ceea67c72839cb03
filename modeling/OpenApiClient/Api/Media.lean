import OpenApiClient.Model.TypeExpression
import OpenApiClient.Text.Blank
import OpenApiClient.Text.Words

/-!
# Media

Content types, and the variants of a body or a response that they tell apart (`MediaVariant`): how
each is encoded and read, and the suffixes that their names get.
-/

namespace OpenApiClient

open Text

/-- The content type without its parameters. -/
def essence (contentType : String) : String :=
  String.ofList (trimChars (contentType.toList.takeWhile (· != ';')))

/-- The part of a media type after its first slash, if that is not empty, else all of it. -/
def subtype (mediaType : String) : String :=
  match mediaType.toList.dropWhile (· != '/') with
  | _ :: c :: rest => String.ofList (c :: rest)
  | _ => mediaType

def mediaSuffix (contentType : String) : String := pascalCase (subtype (essence contentType))

/-- The suffixes for several content types.  Those whose short suffix is not unique get one made of
the whole media type. -/
def mediaSuffixes (contentTypes : List String) : List String :=
  let short := contentTypes.map mediaSuffix
  contentTypes.map fun contentType =>
    if short.count (mediaSuffix contentType) > 1 then pascalCase (essence contentType)
    else mediaSuffix contentType

inductive Codec where
  | json
  | raw
  deriving DecidableEq, Repr

def Codec.text : Codec → String
  | json => "json"
  | raw => "raw"

inductive BodyReader where
  | text
  | blob
  deriving DecidableEq, Repr

def BodyReader.word : BodyReader → String
  | text => "text"
  | blob => "blob"

/-- A body or a response for one content type. -/
structure MediaVariant where
  contentType : String
  /-- The suffix that tells it apart from the others. -/
  name : String
  model : Option Model
  deriving Inhabited

namespace MediaVariant

def typeName (variant : MediaVariant) : String :=
  match variant.model with
  | some model => model.typeName
  | none => "unknown"

/-- JSON is encoded as such, everything else is passed on as it is. -/
def codec (variant : MediaVariant) : Codec :=
  let essence := essence variant.contentType
  if essence = "application/json" ∨ "+json".toList.isSuffixOf essence.toList then .json else .raw

/-- Binary payloads are read as blobs. -/
def reader (variant : MediaVariant) : BodyReader :=
  let essence := essence variant.contentType
  if essence = "application/octet-stream" ∨ essence = "octet-stream" ∨
      (variant.model.map Model.isBinary).getD false then .blob
  else .text

def isBinary (variant : MediaVariant) : Bool := variant.reader == .blob

end MediaVariant
end OpenApiClient
