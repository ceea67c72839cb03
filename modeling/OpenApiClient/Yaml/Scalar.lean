import OpenApiClient.Text.Digits
import OpenApiClient.Yaml.Cursor

/-!
# Scalars

Reading the three spellings of a scalar: plain (`readPlain`), between quotes (`readQuoted`) and as
an indented block (`readBlock`).  Plain and quoted scalars fold their line breaks; a block scalar
keeps them or folds those between lines of equal indentation.
-/

namespace OpenApiClient.Yaml

/-! ## Plain scalars -/

def plainEnds (flow : Bool) (c : Cursor) : Bool :=
  (c.sees ':' && c.gapAt 1) ||
    (flow && match c.peek with
      | some x => x == ',' || x == '[' || x == ']' || x == '\x7b' || x == '\x7d'
      | none => false)

/-- Whether the next character is a colon that a plain scalar in the flow style may not hold. -/
def plainClashes (flow : Bool) (c : Cursor) : Bool :=
  flow && c.sees ':' && match c.peekAt 1 with
    | some x => x == ',' || x == '?' || x == '[' || x == ']' || x == '\x7b' || x == '\x7d'
    | none => false

/-- The characters of a plain scalar up to a blank or its end.  They are put before `read`, in
reversed order. -/
def plainRun (flow : Bool) (read : List Char) (c : Cursor) :
    Nat → Except Error (List Char × Cursor)
  | 0 => .ok (read, c)
  | fuel + 1 =>
    match c.peek with
    | none => .ok (read, c)
    | some x =>
      if isSpace x || isBreak x then .ok (read, c)
      else if plainClashes flow c then .error .ambiguousColon
      else if plainEnds flow c then .ok (read, c)
      else plainRun flow (x :: read) (c.skip 1) fuel

def plainGap (indent : Int) (gap : Gap) (c : Cursor) : Nat → Except Error (Gap × Cursor)
  | 0 => .ok (gap, c)
  | fuel + 1 =>
    if c.atSpace then
      if gap.broken && (c.column : Int) < indent && c.sees '\t' then .error .tabIndentation
      else if gap.broken then plainGap indent gap (c.skip 1) fuel
      else plainGap indent { gap with blanks := gap.blanks ++ c.peek.toList } (c.skip 1) fuel
    else if c.atBreak then
      let (lineBreak, c) := c.takeBreak
      plainGap indent (gap.addBreak lineBreak) c fuel
    else .ok (gap, c)

/-- A plain scalar from its next line on, where `read` holds its reversed beginning and `gap` what
came since.  Also tells whether the scalar was followed by a line break. -/
def plainFrom (flow : Bool) (indent : Int) (read : List Char) (gap : Gap) (c : Cursor) :
    Nat → Except Error (List Char × Bool × Cursor)
  | 0 => .ok (read, gap.broken, c)
  | fuel + 1 =>
    if c.atDocumentMark || c.sees '#' then .ok (read, gap.broken, c)
    else do
      let (run, after) ← plainRun flow [] c (c.left + 1)
      let (read, gap) :=
        if run.isEmpty then (read, gap) else (run ++ gap.fold.reverse ++ read, .none)
      if !(after.atSpace || after.atBreak) then return (read, gap.broken, after)
      let (gap, next) ← plainGap indent gap after (after.left + 1)
      if !flow && (next.column : Int) < indent then return (read, gap.broken, next)
      plainFrom flow indent read gap next fuel

/-- Reads a plain scalar.  Its further lines are indented by at least `indent`, unless it stands in
a flow collection. -/
def readPlain (flow : Bool) (indent : Int) (c : Cursor) :
    Except Error (String × Bool × Cursor) := do
  let (read, broken, c) ← plainFrom flow indent [] .none c (c.left + 1)
  return (String.ofList read.reverse, broken, c)

/-! ## Quoted scalars -/

def shortEscape? : Char → Option Char
  | '0' => some '\x00'
  | 'a' => some '\x07'
  | 'b' => some '\x08'
  | 't' => some '\t'
  | '\t' => some '\t'
  | 'n' => some '\n'
  | 'v' => some '\x0b'
  | 'f' => some '\x0c'
  | 'r' => some '\r'
  | 'e' => some '\x1b'
  | ' ' => some ' '
  | '"' => some '"'
  | '/' => some '/'
  | '\\' => some '\\'
  | 'N' => some '\x85'
  | '_' => some '\xa0'
  | 'L' => some '\u2028'
  | 'P' => some '\u2029'
  | _ => none

def escapeDigits? : Char → Option Nat
  | 'x' => some 2
  | 'u' => some 4
  | 'U' => some 8
  | _ => none

def readEscape (c : Cursor) : Except Error (Char × Cursor) :=
  match c.peekAt 1 with
  | none => .error .badEscape
  | some letter =>
    match shortEscape? letter, escapeDigits? letter with
    | some x, _ => .ok (x, c.skip 2)
    | none, some count =>
      let digits := (c.rest.drop 2).take count
      match Text.natural? 16 digits with
      | some code =>
        if digits.length = count ∧ (code < 0xD800 ∨ (0xE000 ≤ code ∧ code ≤ 0x10FFFF)) then
          .ok (Char.ofNat code, c.skip (2 + count))
        else .error .badEscape
      | none => .error .badEscape
    | none, none => .error .badEscape

/-- The visible characters of a quoted scalar up to a blank or its end, put before `read` in
reversed order.  Also tells whether an escaped line break ended them. -/
def quotedRun (double : Bool) (read : List Char) (c : Cursor) :
    Nat → Except Error (List Char × Bool × Cursor)
  | 0 => .ok (read, false, c)
  | fuel + 1 =>
    match c.peek with
    | none => .ok (read, false, c)
    | some x =>
      if isSpace x || isBreak x then .ok (read, false, c)
      else if !double && x == '\'' && c.peekAt 1 == some '\'' then
        quotedRun double ('\'' :: read) (c.skip 2) fuel
      else if x == (if double then '"' else '\'') then .ok (read, false, c)
      else if double && x == '\\' then
        if ((c.peekAt 1).map isBreak).getD false then .ok (read, true, (c.skip 1).skipBreak)
        else do
          let (y, c) ← readEscape c
          quotedRun double (y :: read) c fuel
      else quotedRun double (x :: read) (c.skip 1) fuel

def quotedGap (gap : Gap) (c : Cursor) : Nat → Gap × Cursor
  | 0 => (gap, c)
  | fuel + 1 =>
    if c.atSpace then
      if gap.broken then quotedGap gap (c.skip 1) fuel
      else quotedGap { gap with blanks := gap.blanks ++ c.peek.toList } (c.skip 1) fuel
    else if c.atBreak then
      let (lineBreak, c) := c.takeBreak
      quotedGap (gap.addBreak lineBreak) c fuel
    else (gap, c)

/-- A quoted scalar from one of its lines on, up to and with its closing quote. -/
def quotedFrom (double : Bool) (read : List Char) (c : Cursor) :
    Nat → Except Error (List Char × Cursor)
  | 0 => .error .openQuote
  | fuel + 1 =>
    if c.atDocumentMark || c.rest.isEmpty then .error .openQuote
    else do
      let (read, escapedBreak, c) ← quotedRun double read c (c.left + 1)
      if c.sees (if double then '"' else '\'') then return (read, c.skip 1)
      let (gap, c) := quotedGap { Gap.none with broken := escapedBreak } c (c.left + 1)
      quotedFrom double (gap.fold.reverse ++ read) c fuel

def readQuoted (double : Bool) (c : Cursor) : Except Error (String × Cursor) := do
  let (read, c) ← quotedFrom double [] (c.skip 1) (c.left + 1)
  return (String.ofList read.reverse, c)

/-! ## Block scalars -/

inductive Chomping where
  | strip
  | clip
  | keep
  deriving DecidableEq

def chomping? (c : Cursor) : Option Chomping :=
  if c.sees '+' then some .keep else if c.sees '-' then some .strip else none

def indentation? (c : Cursor) : Except Error (Option Nat) :=
  match c.peek with
  | some '0' => .error .badBlockHead
  | some x => .ok (if x.isDigit then some (Text.decimalValue x) else none)
  | none => .ok none

/-- Reads the head of a block scalar after its indicator: chomping and indentation in either
order, then blanks and a comment up to the end of the line. -/
def readBlockHead (c : Cursor) : Except Error (Chomping × Option Nat × Cursor) := do
  let (chomping, indentation, c) ←
    match chomping? c with
    | some chomping =>
      let c := c.skip 1
      match ← indentation? c with
      | some n => pure (chomping, some n, c.skip 1)
      | none => pure (chomping, none, c)
    | none =>
      match ← indentation? c with
      | some n =>
        let c := c.skip 1
        match chomping? c with
        | some chomping => pure (chomping, some n, c.skip 1)
        | none => pure (Chomping.clip, some n, c)
      | none => pure (Chomping.clip, none, c)
  let c := c.skipComment
  if c.rest.isEmpty || c.atBreak then return (chomping, indentation, c.skipBreak)
  throw .badBlockHead

/-- Moves over the indentation and the empty lines before a line of a block scalar.  Collects the
line breaks, and the greatest indentation seen when none is known yet. -/
def blockBreaks (indent : Option Nat) (breaks : List Char) (greatest : Nat) (c : Cursor) :
    Nat → Except Error (List Char × Nat × Cursor)
  | 0 => .ok (breaks, greatest, c)
  | fuel + 1 =>
    let inside (column : Nat) : Bool :=
      match indent with
      | none => true
      | some n => column < n
    let spaces := (c.rest.takeWhile (· == ' ')).length
    let c := c.skip (match indent with
      | none => spaces
      | some n => min spaces (n - c.column))
    let greatest := max greatest c.column
    if inside c.column && c.sees '\t' then .error .tabIndentation
    else if c.atBreak then
      let (lineBreak, c) := c.takeBreak
      blockBreaks indent (breaks ++ lineBreak) greatest c fuel
    else .ok (breaks, greatest, c)

/-- The lines of a block scalar, from one with content on.  `lineBreak` ended the line before and
`breaks` came after that; `indented` tells whether that line began with a blank.  Gives the
reversed text and the breaks that are left at the end. -/
def blockLines (literal : Bool) (indent : Nat) (read lineBreak breaks : List Char)
    (indented : Bool) (c : Cursor) :
    Nat → Except Error (List Char × List Char × List Char × Cursor)
  | 0 => .ok (read, lineBreak, breaks, c)
  | fuel + 1 =>
    if c.column ≠ indent ∨ c.rest.isEmpty then .ok (read, lineBreak, breaks, c)
    else do
      let blank := c.atSpace
      let joint :=
        if !literal && lineBreak = ['\n'] && !indented && !blank then
          if breaks.isEmpty then [' '] else []
        else lineBreak
      let (line, c) := c.takeWhile fun x => !isBreak x
      let read := line.reverse ++ (joint ++ breaks).reverse ++ read
      let (lineBreak, c) := c.takeBreak
      let (breaks, _, c) ← blockBreaks (some indent) [] 0 c (c.left + 1)
      blockLines literal indent read lineBreak breaks blank c fuel

/-- Reads a block scalar that begins at its indicator, inside a collection indented by `parent`
(minus one outside all collections). -/
def readBlock (literal : Bool) (parent : Int) (c : Cursor) : Except Error (String × Cursor) := do
  let (chomping, indentation, c) ← readBlockHead (c.skip 1)
  let given := indentation.map fun n => (if parent ≥ 0 then parent.toNat + n else n)
  let (breaks, greatest, c) ← blockBreaks given [] 0 c (c.left + 1)
  let indent := given.getD (max (max greatest (parent + 1).toNat) 1)
  let (read, lineBreak, breaks, c) ←
    blockLines literal indent [] [] breaks false c (c.left + 1)
  let ending := match chomping with
    | .strip => []
    | .clip => lineBreak
    | .keep => lineBreak ++ breaks
  return (String.ofList (read.reverse ++ ending), c)

end OpenApiClient.Yaml
