import OpenApiClient.Yaml.Layout

/-!
# YAML nodes

The tree of a YAML text (`Document.ofText`).  A node may carry an anchor, and an alias stands for
the node in the slot of its anchor.  Every anchor opens the slot whose number is the count of the
names known before; a name that is used again keeps its place in that count, so the next anchor may
fall into the same slot, and what falls into it last stays.
-/

namespace OpenApiClient.Yaml

inductive Node where
  | scalar (text : String) (style : ScalarStyle) (tag : Option String)
  | sequence (tag : Option String) (items : List Node)
  | mapping (tag : Option String) (entries : List (Node × Node))
  | alias (slot : Nat)

/-- The scalar that stands where a text has nothing. -/
def Node.nothing : Node := .scalar "" .plain none

/-- The one document of a text: its root, unless the text has no content, the nodes in the slots of
the anchors, and how many nodes and ends of collections it has. -/
structure Document where
  root : Option Node
  slots : List (Nat × Node)
  size : Nat

structure Grammar where
  tokens : List Token
  handles : List (String × String)
  /-- The slot of every name of an anchor. -/
  anchors : List (String × Nat)
  /-- The node in every slot, by the number of nodes before it. -/
  slots : List (Nat × Nat)
  /-- The anchored nodes, by the number of nodes before them. -/
  nodes : List (Nat × Node)
  /-- How many nodes and ends of collections have been met. -/
  size : Nat

abbrev Reader := StateT Grammar (Except Error)

namespace Reader

def peek : Reader (Option Token) := return (← get).tokens.head?

def advance : Reader Unit := modify fun s => { s with tokens := s.tokens.tail }

def count : Reader Unit := modify fun s => { s with size := s.size + 1 }

/-- Writes a value under a number, in the place of what is there. -/
def assign {α β : Type} [BEq α] (key : α) (value : β) (table : List (α × β)) : List (α × β) :=
  (key, value) :: table.filter (!·.1 == key)

/-- The node that is not there, counted as a node. -/
def nothing : Reader Node := do
  count
  return .nothing

def tagText (handle suffix : String) : Reader String := do
  if handle.isEmpty then return suffix
  match (← get).handles.lookup handle with
  | some tagStart => return tagStart ++ suffix
  | none => throw .undeclaredHandle

/-- Reads the anchor and the tag before a node, in either order. -/
def properties : Reader (Option String × Option String) := do
  match ← peek with
  | some (.anchor name) =>
    advance
    match ← peek with
    | some (.tag handle suffix) =>
      advance
      return (some name, some (← tagText handle suffix))
    | _ => return (some name, none)
  | some (.tag handle suffix) =>
    advance
    match ← peek with
    | some (.anchor name) =>
      advance
      return (some name, some (← tagText handle suffix))
    | _ => return (none, some (← tagText handle suffix))
  | _ => return (none, none)

def openSlot (anchor : Option String) : Reader Unit := do
  match anchor with
  | none => return
  | some name =>
    modify fun s =>
      let slot := s.anchors.length
      { s with anchors := assign name slot s.anchors, slots := assign slot s.size s.slots }

/-- Keeps an anchored node that began after `place` others. -/
def keepNode (anchor : Option String) (place : Nat) (node : Node) : Reader Unit := do
  if anchor.isSome then modify fun s => { s with nodes := (place, node) :: s.nodes }

def endsBlockItem (mapping : Bool) : Option Token → Bool
  | some .blockEntry => !mapping
  | some .key => mapping
  | some .value => mapping
  | some .blockEnd => true
  | _ => false

def endsBareItem (token : Option Token) : Bool :=
  endsBlockItem true token || token == some .blockEntry

def endsFlowItem (closing : Token) (token : Option Token) : Bool :=
  token == some .flowEntry || token == some closing

mutual

/-- Reads a node.  Block collections are read only where `block` is set, and block sequences
without indentation only where `bare` is set. -/
def node (block bare : Bool) : Nat → Reader Node
  | 0 => throw .unexpectedToken
  | fuel + 1 => do
    if let some (.alias name) ← peek then
      advance
      count
      match (← get).anchors.lookup name with
      | some slot => return .alias slot
      | none => throw .unknownAlias
    let (anchor, tag) ← properties
    let place := (← get).size
    openSlot anchor
    let result ← do
      match ← peek with
      | some .blockEntry =>
        if bare then
          count
          pure (Node.sequence tag (← bareItems fuel))
        else emptyNode anchor tag
      | some (.scalar text style) =>
        advance
        count
        pure (Node.scalar text style (if tag == some "!" then none else tag))
      | some .flowSequenceStart =>
        advance
        count
        pure (Node.sequence tag (← flowItems true fuel))
      | some .flowMappingStart =>
        advance
        count
        pure (Node.mapping tag (← flowEntries true fuel))
      | some .blockSequenceStart =>
        if block then
          advance
          count
          pure (Node.sequence tag (← blockItems fuel))
        else emptyNode anchor tag
      | some .blockMappingStart =>
        if block then
          advance
          count
          pure (Node.mapping tag (← blockEntries fuel))
        else emptyNode anchor tag
      | _ => emptyNode anchor tag
    keepNode anchor place result
    return result

/-- A node without content, which needs an anchor or a tag. -/
def emptyNode (anchor tag : Option String) : Reader Node := do
  if anchor.isNone && tag.isNone then throw .unexpectedToken
  count
  return .scalar "" .plain tag

def blockItems : Nat → Reader (List Node)
  | 0 => throw .unexpectedToken
  | fuel + 1 => do
    match ← peek with
    | some .blockEntry =>
      advance
      let item ← if endsBlockItem false (← peek) then nothing else node true false fuel
      return item :: (← blockItems fuel)
    | some .blockEnd =>
      advance
      count
      return []
    | _ => throw .unexpectedToken

/-- The items of a block sequence that has no indentation of its own. -/
def bareItems : Nat → Reader (List Node)
  | 0 => throw .unexpectedToken
  | fuel + 1 => do
    match ← peek with
    | some .blockEntry =>
      advance
      let item ← if endsBareItem (← peek) then nothing else node true false fuel
      return item :: (← bareItems fuel)
    | _ =>
      count
      return []

def blockEntries : Nat → Reader (List (Node × Node))
  | 0 => throw .unexpectedToken
  | fuel + 1 => do
    match ← peek with
    | some .key =>
      advance
      let key ← if endsBlockItem true (← peek) then nothing else node true true fuel
      let value ←
        if (← peek) == some .value then do
          advance
          if endsBlockItem true (← peek) then nothing else node true true fuel
        else nothing
      return (key, value) :: (← blockEntries fuel)
    | some .blockEnd =>
      advance
      count
      return []
    | _ => throw .unexpectedToken

def flowValue (closing : Token) : Nat → Reader Node
  | 0 => throw .unexpectedToken
  | fuel + 1 => do
    if (← peek) == some .value then
      advance
      if endsFlowItem closing (← peek) then nothing else node false false fuel
    else nothing

def flowItems (first : Bool) : Nat → Reader (List Node)
  | 0 => throw .unexpectedToken
  | fuel + 1 => do
    if (← peek) == some .flowSequenceEnd then
      advance
      count
      return []
    if !first then
      if (← peek) == some .flowEntry then advance else throw .unexpectedToken
    match ← peek with
    | some .key =>
      advance
      count
      let next ← peek
      let key ←
        if next == some .value || endsFlowItem .flowSequenceEnd next then do
          advance
          nothing
        else node false false fuel
      let value ← flowValue .flowSequenceEnd fuel
      count
      return .mapping none [(key, value)] :: (← flowItems false fuel)
    | some .flowSequenceEnd =>
      advance
      count
      return []
    | _ => return (← node false false fuel) :: (← flowItems false fuel)

def flowEntries (first : Bool) : Nat → Reader (List (Node × Node))
  | 0 => throw .unexpectedToken
  | fuel + 1 => do
    if (← peek) == some .flowMappingEnd then
      advance
      count
      return []
    if !first then
      if (← peek) == some .flowEntry then advance else throw .unexpectedToken
    match ← peek with
    | some .key =>
      advance
      let next ← peek
      let key ←
        if next == some .value || endsFlowItem .flowMappingEnd next then nothing
        else node false false fuel
      let value ← flowValue .flowMappingEnd fuel
      return (key, value) :: (← flowEntries false fuel)
    | some .flowMappingEnd =>
      advance
      count
      return []
    | _ =>
      let key ← node false false fuel
      let value ← nothing
      return (key, value) :: (← flowEntries false fuel)

end

def isDocumentToken : Option Token → Bool
  | none => true
  | some .documentStart => true
  | some .documentEnd => true
  | some (.versionDirective _ _) => true
  | some (.tagDirective _ _) => true
  | _ => false

def directives (version : Bool) (declared : List String) : Nat → Reader Bool
  | 0 => throw .unexpectedToken
  | fuel + 1 => do
    match ← peek with
    | some (.versionDirective major minor) =>
      if version || major ≠ 1 || (minor ≠ 1 && minor ≠ 2) then throw .unsuitableDirective
      advance
      directives true declared fuel
    | some (.tagDirective handle tagStart) =>
      if declared.contains handle then throw .unsuitableDirective
      advance
      modify fun s => { s with handles := assign handle tagStart s.handles }
      directives version (handle :: declared) fuel
    | _ => return version || !declared.isEmpty

def endMarks : Nat → Reader Unit
  | 0 => return
  | fuel + 1 => do
    if (← peek) == some .documentEnd then
      advance
      endMarks fuel

def document : Reader (Option Node) := do
  let fuel := 4 * (← get).tokens.length + 8
  if (← peek).isNone then return none
  let announced ← directives false [] fuel
  let root ←
    if (← peek) == some .documentStart then do
      advance
      if isDocumentToken (← peek) then nothing else node true false fuel
    else if announced then throw .unexpectedToken
    else node true false fuel
  endMarks fuel
  if (← peek).isSome then throw .severalDocuments
  return some root

end Reader

/-- The handles that need no directive. -/
def standardHandles : List (String × String) := [("!", "!"), ("!!", "tag:yaml.org,2002:")]

def Document.ofTokens (tokens : List Token) : Except Error Document := do
  let (root, s) ← Reader.document.run ⟨tokens, standardHandles, [], [], [], 0⟩
  let slots := s.slots.filterMap fun (slot, place) =>
    (s.nodes.lookup place).map fun node => (slot, node)
  return ⟨root, slots, s.size⟩

def Document.ofText (text : String) : Except Error Document :=
  (Token.ofText text).bind Document.ofTokens

end OpenApiClient.Yaml
