/-!
# YAML tokens

The tokens of a YAML text and the reasons why a text is not YAML.  The layout of a block
collection is explicit in the tokens: every collection begins with a token of its own and ends with
`blockEnd`.
-/

namespace OpenApiClient.Yaml

/-- How a scalar is written. -/
inductive ScalarStyle where
  | plain
  | singleQuoted
  | doubleQuoted
  | literal
  | folded
  deriving DecidableEq, Repr

inductive Token where
  | versionDirective (major minor : Nat)
  | tagDirective (handle tagStart : String)
  | documentStart
  | documentEnd
  | blockSequenceStart
  | blockMappingStart
  | blockEnd
  | flowSequenceStart
  | flowSequenceEnd
  | flowMappingStart
  | flowMappingEnd
  | blockEntry
  | flowEntry
  | key
  | value
  | alias (name : String)
  | anchor (name : String)
  | tag (handle suffix : String)
  | scalar (text : String) (style : ScalarStyle)
  deriving DecidableEq, Repr

inductive Error where
  /-- A character that no YAML text may hold. -/
  | forbiddenCharacter
  /-- A character with which no token begins. -/
  | strayCharacter
  /-- A tab where the indentation is counted. -/
  | tabIndentation
  | badDirective
  /-- A directive for another major version, or a repeated directive. -/
  | unsuitableDirective
  /-- An anchor or alias without a name, or with a wrong character after it. -/
  | badAnchor
  /-- A tag that is not spelled as one. -/
  | badTag
  | undeclaredHandle
  /-- A quoted scalar that does not end, or that is cut by a document mark. -/
  | openQuote
  /-- An escape sequence that stands for nothing. -/
  | badEscape
  /-- A wrong character in the head of a block scalar. -/
  | badBlockHead
  /-- A colon inside a plain scalar that the flow style cannot hold. -/
  | ambiguousColon
  /-- A collection indicator where the layout does not allow one. -/
  | misplacedIndicator
  | missingColon
  /-- A token that the grammar does not allow at its place. -/
  | unexpectedToken
  | unknownAlias
  /-- A second document. -/
  | severalDocuments
  /-- Collections nested too deeply, or a collection that contains itself. -/
  | tooDeep
  /-- Aliases that are followed too often. -/
  | tooManyAliases
  /-- A node with a tag of the application. -/
  | localTag
  /-- A scalar that does not fit its tag. -/
  | mistaggedScalar
  /-- A whole number of more than 64 bits. -/
  | wideInteger
  /-- A mapping key that is a collection. -/
  | collectionKey
  /-- A node of another kind than the reader asks for. -/
  | wrongKind
  /-- A field that is given twice. -/
  | repeatedField
  deriving DecidableEq, Repr

end OpenApiClient.Yaml
