import OpenApiClient.Yaml.Scalar
import OpenApiClient.Yaml.Tag

/-!
# Layout

How the lines of a YAML text become tokens (`Token.ofText`).  In the block style the columns decide
where collections begin and end: `Layout` keeps the columns of the open ones.  A key that is not
announced by an indicator is only known by the colon after it, so the last place where such a key
may have begun is remembered for every open flow collection, and the tokens that open the mapping
and the key are put in there later.
-/

namespace OpenApiClient.Yaml

/-- A place where a key may have begun. -/
structure PossibleKey where
  /-- Whether the layout demands a key here. -/
  required : Bool
  /-- How many tokens come before it. -/
  position : Nat
  index : Nat
  line : Nat
  column : Nat

structure Layout where
  cursor : Cursor
  tokens : Array Token
  /-- The column of the innermost block collection; minus one outside all of them. -/
  indent : Int
  /-- The columns of the block collections around that one. -/
  outer : List Int
  /-- Whether a key may begin here. -/
  keyAllowed : Bool
  /-- The possible key of every open flow collection, innermost first, and of the block style. -/
  keys : List (Option PossibleKey)

namespace Layout

def start (text : List Char) : Layout := ⟨.start text, #[], -1, [], true, [none]⟩

def inFlow (s : Layout) : Bool := s.keys.length > 1

def push (s : Layout) (token : Token) : Layout := { s with tokens := s.tokens.push token }

def skip (s : Layout) (n : Nat) : Layout := { s with cursor := s.cursor.skip n }

/-- Forgets keys whose colon can no longer come: a key stays on one line and within 1024
characters. -/
def dropStaleKeys (s : Layout) : Except Error Layout := do
  let keys ← s.keys.mapM fun key =>
    match key with
    | none => pure none
    | some k =>
      if k.line < s.cursor.line || k.index + 1024 < s.cursor.index then
        if k.required then throw Error.missingColon else pure none
      else pure (some k)
  return { s with keys }

def dropKey (s : Layout) : Except Error Layout :=
  match s.keys with
  | [] => .ok s
  | some k :: keys =>
    if k.required then .error .missingColon else .ok { s with keys := none :: keys }
  | none :: _ => .ok s

def noteKey (s : Layout) : Except Error Layout := do
  if s.keyAllowed then
    let s ← s.dropKey
    let c := s.cursor
    let key : PossibleKey :=
      ⟨!s.inFlow && s.indent == (c.column : Int), s.tokens.size, c.index, c.line, c.column⟩
    return { s with keys := some key :: s.keys.drop 1 }
  else return s

def closeBlocks (s : Layout) (column : Int) : Layout :=
  if s.inFlow then s
  else
    let inner := (s.indent :: s.outer).takeWhile (column < ·)
    match (s.indent :: s.outer).drop inner.length with
    | [] => { s with tokens := s.tokens ++ (inner.map fun _ => Token.blockEnd).toArray }
    | indent :: outer =>
      { s with
        tokens := s.tokens ++ (inner.map fun _ => Token.blockEnd).toArray
        indent := indent
        outer := outer }

/-- Opens a block collection at a column, unless one is open there already.  Its token goes to the
given position. -/
def openBlock (s : Layout) (column position : Nat) (token : Token) : Layout :=
  if !s.inFlow && s.indent < column then
    { s with
      tokens := s.tokens.insertIdxIfInBounds position token
      indent := column
      outer := s.indent :: s.outer }
  else s

/-- Moves over blanks, comments and line breaks, and over a byte order mark that begins a line.  A
tab may not stand where a key may begin. -/
def skipGap (s : Layout) : Nat → Layout
  | 0 => s
  | fuel + 1 =>
    let c := s.cursor
    let c := if c.column == 0 && c.sees '\ufeff' then c.skip 1 else c
    let c := c.skipWhile fun x => x == ' ' || ((s.inFlow || !s.keyAllowed) && x == '\t')
    let c := if c.sees '#' then c.skipWhile (fun x => !isBreak x) else c
    if c.atBreak then
      skipGap { s with cursor := c.skipBreak, keyAllowed := s.keyAllowed || !s.inFlow } fuel
    else { s with cursor := c }

/-- The layout before a directive or a mark between documents: all blocks are closed. -/
def leaveDocument (s : Layout) : Except Error Layout := do
  let s ← (s.closeBlocks (-1)).dropKey
  return { s with keyAllowed := false }

def openFlow (s : Layout) (token : Token) : Except Error Layout := do
  let s ← s.noteKey
  return ({ s with keys := none :: s.keys, keyAllowed := true }.push token).skip 1

def closeFlow (s : Layout) (token : Token) : Except Error Layout := do
  let s ← s.dropKey
  let keys := if s.inFlow then s.keys.drop 1 else s.keys
  return ({ s with keys, keyAllowed := false }.push token).skip 1

def flowEntry (s : Layout) : Except Error Layout := do
  let s ← s.dropKey
  return ({ s with keyAllowed := true }.push .flowEntry).skip 1

def blockEntry (s : Layout) : Except Error Layout := do
  if !s.inFlow && !s.keyAllowed then throw .misplacedIndicator
  let s ← (s.openBlock s.cursor.column s.tokens.size .blockSequenceStart).dropKey
  return ({ s with keyAllowed := true }.push .blockEntry).skip 1

def announcedKey (s : Layout) : Except Error Layout := do
  if !s.inFlow && !s.keyAllowed then throw .misplacedIndicator
  let s ← (s.openBlock s.cursor.column s.tokens.size .blockMappingStart).dropKey
  return ({ s with keyAllowed := !s.inFlow }.push .key).skip 1

/-- The colon after a key.  If the key was not announced, its token and the one of the mapping are
put before it. -/
def value (s : Layout) : Except Error Layout :=
  match s.keys with
  | some key :: keys =>
    let s := { s with tokens := s.tokens.insertIdxIfInBounds key.position .key }
    let s := s.openBlock key.column key.position .blockMappingStart
    .ok (({ s with keys := none :: keys, keyAllowed := false }.push .value).skip 1)
  | _ =>
    if !s.inFlow && !s.keyAllowed then .error .misplacedIndicator
    else
      let s := s.openBlock s.cursor.column s.tokens.size .blockMappingStart
      .ok (({ s with keyAllowed := !s.inFlow }.push .value).skip 1)

def keyToken (s : Layout) (read : Cursor → Except Error (Token × Cursor)) :
    Except Error Layout := do
  let s ← s.noteKey
  let (token, cursor) ← read s.cursor
  return { s with cursor, keyAllowed := false }.push token

def blockScalar (s : Layout) (literal : Bool) : Except Error Layout := do
  let s ← s.dropKey
  let (text, cursor) ← readBlock literal s.indent s.cursor
  return { s with cursor, keyAllowed := true }.push
    (.scalar text (if literal then .literal else .folded))

/-- A plain scalar.  After a line break a new key may begin. -/
def plainScalar (s : Layout) : Except Error Layout := do
  let s ← s.noteKey
  let (text, broken, cursor) ← readPlain s.inFlow (s.indent + 1) s.cursor
  return { s with cursor, keyAllowed := broken }.push (.scalar text .plain)

/-- Whether a plain scalar may begin here.  Some indicators may begin one in the block style if no
blank follows, the hyphen in both styles. -/
def atPlain (s : Layout) : Bool :=
  let c := s.cursor
  match c.peek with
  | none => false
  | some x =>
    let indicator := x == '-' || x == '?' || x == ':' || x == ',' || x == '[' || x == ']' ||
      x == '\x7b' || x == '\x7d' || x == '#' || x == '&' || x == '*' || x == '!' || x == '|' ||
      x == '>' || x == '\'' || x == '"' || x == '%' || x == '@' || x == '\x60'
    (!indicator && !isSpace x && !isBreak x) ||
      (x == '-' && !((c.peekAt 1).map isSpace).getD false) ||
      (!s.inFlow && (x == '?' || x == ':') && !c.gapAt 1)

/-- The layout after the next token, or nothing at the end of the text. -/
def next (s : Layout) : Except Error (Option Layout) := do
  let s ← (s.skipGap (s.cursor.left + 1)).dropStaleKeys
  let s := s.closeBlocks s.cursor.column
  let c := s.cursor
  match c.peek with
  | none => return none
  | some x =>
    if c.column == 0 && x == '%' then
      let s ← s.leaveDocument
      let (token, cursor) ← readDirective s.cursor
      return some ({ s with cursor }.push token)
    else if c.atMark '-' then return some (((← s.leaveDocument).push .documentStart).skip 3)
    else if c.atMark '.' then return some (((← s.leaveDocument).push .documentEnd).skip 3)
    else if x == '[' then some <$> s.openFlow .flowSequenceStart
    else if x == '\x7b' then some <$> s.openFlow .flowMappingStart
    else if x == ']' then some <$> s.closeFlow .flowSequenceEnd
    else if x == '\x7d' then some <$> s.closeFlow .flowMappingEnd
    else if x == ',' then some <$> s.flowEntry
    else if x == '-' && c.gapAt 1 then some <$> s.blockEntry
    else if x == '?' && (s.inFlow || c.gapAt 1) then some <$> s.announcedKey
    else if x == ':' && (s.inFlow || c.gapAt 1) then some <$> s.value
    else if x == '*' then
      some <$> s.keyToken fun c => (readAnchorName (c.skip 1)).map fun (n, c) => (.alias n, c)
    else if x == '&' then
      some <$> s.keyToken fun c => (readAnchorName (c.skip 1)).map fun (n, c) => (.anchor n, c)
    else if x == '!' then some <$> s.keyToken (readTag s.inFlow)
    else if x == '|' && !s.inFlow then some <$> s.blockScalar true
    else if x == '>' && !s.inFlow then some <$> s.blockScalar false
    else if x == '\'' then
      some <$> s.keyToken fun c =>
        (readQuoted false c).map fun (text, c) => (.scalar text .singleQuoted, c)
    else if x == '"' then
      some <$> s.keyToken fun c =>
        (readQuoted true c).map fun (text, c) => (.scalar text .doubleQuoted, c)
    else if s.atPlain then some <$> s.plainScalar
    else throw .strayCharacter

/-- The tokens up to the end of the text.  Every token takes at least one character. -/
def run (s : Layout) : Nat → Except Error (List Token)
  | 0 => .ok s.tokens.toList
  | fuel + 1 => do
    match ← s.next with
    | some s => s.run fuel
    | none => return (← (s.closeBlocks (-1)).dropKey).tokens.toList

end Layout

def Token.ofText (text : String) : Except Error (List Token) :=
  let chars := text.toList
  if chars.all isAllowed then (Layout.start chars).run (chars.length + 1)
  else .error .forbiddenCharacter

end OpenApiClient.Yaml
