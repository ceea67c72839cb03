import OpenApiClient.Yaml.Node
import OpenApiClient.Yaml.Plain

/-!
# From YAML to JSON values

The JSON value of a YAML text (`Yaml.read`).  Tags of the standard types are obeyed, tags of an
application are refused, and keys are taken by their text.  Collections may nest up to
`Yaml.maxDepth` deep, and aliases may be followed a hundred times as often as the document has
nodes.
-/

namespace OpenApiClient.Yaml

def maxDepth : Nat := 128

abbrev Following := StateT Nat (Except Error)

/-- The node in a slot.  Counts the step. -/
def Document.followAlias (doc : Document) (slot : Nat) : Following Node := do
  modify (· + 1)
  if (← get) > doc.size * 100 then throw .tooManyAliases
  match doc.slots.lookup slot with
  | some node => return node
  | none => throw .unknownAlias

def isLocalTag (tag : Option String) : Bool :=
  match tag with
  | some text => text.toList.head? == some '!'
  | none => false

def standardTag (name : String) : String := "tag:yaml.org,2002:" ++ name

/-- The value of a scalar.  A tag of a scalar type demands a text that denotes such a value; any
other tag, and any style but the plain one, makes the scalar a text. -/
def scalarValue (text : String) (style : ScalarStyle) (tag : Option String) : Except Error Json :=
  match tag with
  | none => if style = .plain then plainValue text else .ok (.string text)
  | some tag =>
    if tag = standardTag "bool" then
      match truth? text with
      | some value => .ok (.bool value)
      | none => .error .mistaggedScalar
    else if tag = standardTag "int" then (integerValue? text.toList).getD (.error .mistaggedScalar)
    else if tag = standardTag "float" then
      match real? text.toList with
      | some value => .ok value.toJson
      | none => .error .mistaggedScalar
    else if tag = standardTag "null" then
      if isNull text then .ok .null else .error .mistaggedScalar
    else .ok (.string text)

/-- The text of a key.  A key is a scalar; its tag and its style do not matter. -/
def Document.keyText (doc : Document) : Node → Following String
  | .scalar text _ _ => return text
  | .alias slot => do
    match ← doc.followAlias slot with
    | .scalar text _ _ => return text
    | _ => throw .collectionKey
  | _ => throw .collectionKey

/-- The value of a node inside at most `depth` further collections. -/
def Document.value (doc : Document) (depth : Nat) : Nat → Node → Following Json
  | 0, _ => throw .tooDeep
  | fuel + 1, node => do
    match node with
    | .alias slot => doc.value depth fuel (← doc.followAlias slot)
    | .scalar text style tag =>
      if isLocalTag tag then throw .localTag
      scalarValue text style tag
    | .sequence tag items =>
      if isLocalTag tag then throw .localTag
      if depth = 0 then throw .tooDeep
      return .array (← items.mapM (doc.value (depth - 1) fuel))
    | .mapping tag entries =>
      if isLocalTag tag then throw .localTag
      if depth = 0 then throw .tooDeep
      let pairs ← entries.mapM fun (key, value) => do
        let key ← doc.keyText key
        return (key, ← doc.value (depth - 1) fuel value)
      return .object (Entries.ofPairs pairs)

/-- The value of a document.  Every step goes into a collection or follows an alias to one, so
there are at most two steps for every level. -/
def Document.toJson (doc : Document) : Except Error Json :=
  match doc.root with
  | none => .ok .null
  | some root => (doc.value maxDepth (2 * maxDepth + 4) root).run' 0

def read (text : String) : Except Error Json := (Document.ofText text).bind Document.toJson

end OpenApiClient.Yaml
