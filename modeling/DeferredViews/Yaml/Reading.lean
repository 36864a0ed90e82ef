import DeferredViews.Yaml.Mark

/-!
# Reading a document into tokens

Where a token is deeper than the block collections around it, it may open a new one; where it is
less deep, it closes them. A key without a mark of its own is recognised only when a colon follows
it, on the same line and not too far on; its tokens are then put in before it.
-/
namespace DeferredViews.Yaml

/-- A place where a key may have started. -/
structure SimpleKey where
  /-- How many tokens stand before it. -/
  position : Nat
  /-- Whether the indentation allows nothing but a key here. -/
  required : Bool
  place : Cursor

structure Reading where
  cursor : Cursor
  tokens : Array Placed := #[]
  /-- The columns of the open block collections, the innermost first. -/
  columns : List Nat := []
  /-- How many flow collections are open. -/
  depth : Nat := 0
  /-- Whether a key may start here without a mark of its own. -/
  keyAllowed : Bool := true
  /-- The last possible key at each depth. -/
  keys : List (Nat × SimpleKey) := []

/-- A key stands on one line and within so many characters. -/
def keyLimit : Nat := 1024

def SimpleKey.isStale (k : SimpleKey) (c : Cursor) : Bool :=
  k.place.line ≠ c.line || keyLimit < c.index - k.place.index

namespace Reading

def inFlow (r : Reading) : Bool := r.depth ≠ 0

/-- The indentation that a scalar in the innermost block collection needs. -/
def least (r : Reading) : Nat := (r.columns.head?.map (· + 1)).getD 0

def emit (r : Reading) (t : Token) (place : Cursor) : Reading :=
  { r with tokens := r.tokens.push ⟨t, place⟩ }

/-- Put tokens in before the token at a position. -/
def insertAt (r : Reading) (position : Nat) (ts : List Placed) : Reading :=
  { r with
    tokens := (r.tokens.extract 0 position) ++ ts.toArray ++
      (r.tokens.extract position r.tokens.size) }

/-- Give up possible keys that can be none any more. -/
def dropStale (r : Reading) : Except Fault Reading :=
  let (stale, live) := r.keys.partition fun (_, k) => k.isStale r.cursor
  if stale.any (·.2.required) then r.cursor.refuse "expected a colon after a key"
  else .ok { r with keys := live }

/-- Give up the possible key at this depth. -/
def dropKey (r : Reading) : Except Fault Reading :=
  match r.keys.lookup r.depth with
  | none => .ok r
  | some k =>
    if k.required then r.cursor.refuse "expected a colon after a key"
    else .ok { r with keys := r.keys.filter (·.1 ≠ r.depth) }

/-- Note that a key may start here. -/
def markKey (r : Reading) : Except Fault Reading := do
  if r.keyAllowed then
    let required := !r.inFlow && r.columns.head? == some r.cursor.column
    let r ← r.dropKey
    .ok { r with keys := (r.depth, ⟨r.tokens.size, required, r.cursor⟩) :: r.keys }
  else .ok r

/-- Close the block collections that are deeper than a column, or all of them. -/
def unwind (r : Reading) (column : Option Nat) : Reading :=
  if r.inFlow then r
  else
    let deeper := r.columns.takeWhile fun k => column.all (· < k)
    deeper.foldl (fun r _ => r.emit .blockEnd r.cursor)
      { r with columns := r.columns.drop deeper.length }

/-- Whether a column is deeper than the open block collections. -/
def isDeeper (r : Reading) (column : Nat) : Bool := r.columns.head?.all (· < column)

/-- Open a block collection here unless one is open that is as deep. -/
def openBlock (r : Reading) (t : Token) : Reading :=
  if r.isDeeper r.cursor.column then
    { r.emit t r.cursor with columns := r.cursor.column :: r.columns }
  else r

/-- Read a token of some characters. -/
def take (r : Reading) (size : Nat) (t : Token) : Reading :=
  { r.emit t r.cursor with cursor := r.cursor.skip size }

/-- Read a token that ends all that is open: a directive or the mark of a document. -/
def closeAll (r : Reading) : Except Fault Reading := do
  let r ← (r.unwind none).dropKey
  .ok { r with keyAllowed := false }

def readFlowStart (r : Reading) (t : Token) : Except Fault Reading := do
  let r ← r.markKey
  .ok ({ r with depth := r.depth + 1, keyAllowed := true }.take 1 t)

def readFlowEnd (r : Reading) (t : Token) : Except Fault Reading := do
  let r ← r.dropKey
  .ok ({ r with depth := r.depth - 1, keyAllowed := false }.take 1 t)

def readFlowEntry (r : Reading) : Except Fault Reading := do
  let r ← r.dropKey
  .ok ({ r with keyAllowed := true }.take 1 .flowEntry)

def readBlockEntry (r : Reading) : Except Fault Reading := do
  if !r.inFlow && !r.keyAllowed then r.cursor.refuse "a sequence entry is not allowed here"
  else
    let r := if r.inFlow then r else r.openBlock .blockSequence
    let r ← { r with keyAllowed := true }.dropKey
    .ok (r.take 1 .blockEntry)

def readKeyMark (r : Reading) : Except Fault Reading := do
  if !r.inFlow && !r.keyAllowed then r.cursor.refuse "a key is not allowed here"
  else
    let r := if r.inFlow then r else r.openBlock .blockMapping
    let r ← { r with keyAllowed := !r.inFlow }.dropKey
    .ok (r.take 1 .key)

/-- A colon ends the key at this depth, which may have been read without a mark. -/
def readValueMark (r : Reading) : Except Fault Reading := do
  match r.keys.lookup r.depth with
  | some k =>
    let opens := !r.inFlow && r.isDeeper k.place.column
    let columns := if opens then k.place.column :: r.columns else r.columns
    let start := if opens then [(⟨.blockMapping, k.place⟩ : Placed)] else []
    let r := r.insertAt k.position (start ++ [⟨.key, k.place⟩])
    let keys := r.keys.filter (·.1 ≠ r.depth)
    .ok ({ r with keys, columns, keyAllowed := false }.take 1 .value)
  | none =>
    if !r.inFlow && !r.keyAllowed then r.cursor.refuse "a value is not allowed here"
    else
      let r := if r.inFlow then r else r.openBlock .blockMapping
      let r ← { r with keyAllowed := !r.inFlow }.dropKey
      .ok (r.take 1 .value)

/-- Read a token that may be a key or start one. -/
def readKeyPart (r : Reading) (read : Cursor → Except Fault (Token × Cursor)) :
    Except Fault Reading := do
  let r ← r.markKey
  let (t, cursor) ← read r.cursor
  .ok { r.emit t r.cursor with cursor, keyAllowed := false }

def readBlockScalar (r : Reading) (folded : Bool) : Except Fault Reading := do
  let r ← { r with keyAllowed := true }.dropKey
  let (s, cursor) ← readBlock folded r.least r.cursor
  .ok { r.emit (.scalar (String.ofList s) false) r.cursor with cursor }

def readPlainScalar (r : Reading) : Except Fault Reading := do
  let r ← r.markKey
  let s := readPlain r.inFlow r.least r.cursor
  .ok { r.emit (.scalar (String.ofList s.text) true) r.cursor with
    cursor := s.cursor
    keyAllowed := s.broken }

/-- Whether a plain scalar can start with a character before another one. -/
def startsPlain (r : Reading) (ch : Char) (next : Option Char) : Bool :=
  !(isSpace ch || isBreak ch || "-?:,[]\x7b\x7d#&*!|>'\"%@\x60".toList.contains ch) ||
    (!endsWord next && (ch = '-' || (!r.inFlow && (ch = '?' || ch = ':'))))

/-- Read the token that starts with a character. -/
def readToken (r : Reading) (ch : Char) : Except Fault Reading := do
  let c := r.cursor
  let next := c.ahead 1
  let marksFlow := r.inFlow || endsWord next
  if c.column = 0 ∧ ch = '%' then
    let r ← r.closeAll
    let (d, cursor) ← readDirective r.cursor
    .ok { r.emit (.directive d) r.cursor with cursor }
  else if c.column = 0 ∧ c.atDocumentMark then
    let r ← r.closeAll
    .ok (r.take 3 (if ch = '-' then .documentStart else .documentEnd))
  else if ch = '[' then r.readFlowStart .flowSequence
  else if ch = '\x7b' then r.readFlowStart .flowMapping
  else if ch = ']' then r.readFlowEnd .flowSequenceEnd
  else if ch = '\x7d' then r.readFlowEnd .flowMappingEnd
  else if ch = ',' then r.readFlowEntry
  else if ch = '-' ∧ endsWord next then r.readBlockEntry
  else if ch = '?' ∧ marksFlow then r.readKeyMark
  else if ch = ':' ∧ marksFlow then r.readValueMark
  else if ch = '*' then
    r.readKeyPart fun c => do
      let (name, c) ← readName c
      .ok (.alias name, c)
  else if ch = '&' then
    r.readKeyPart fun c => do
      let (name, c) ← readName c
      .ok (.anchor name, c)
  else if ch = '!' then r.readKeyPart readTag
  else if ch = '|' ∧ !r.inFlow then r.readBlockScalar false
  else if ch = '>' ∧ !r.inFlow then r.readBlockScalar true
  else if ch = '\'' ∨ ch = '"' then
    r.readKeyPart fun c => do
      let (s, c) ← readQuotedScalar (ch = '"') c
      .ok (.scalar (String.ofList s) false, c)
  else if r.startsPlain ch next then r.readPlainScalar
  else c.refuse "a character that starts no token"

/-- Go on to the next token, over blanks, comments and line ends. -/
def toNextToken : Nat → Reading → Reading
  | 0, r => r
  | fuel + 1, r =>
    let c := (r.cursor.span (· = ' ')).2
    let c := if c.ahead 0 = some '#' then (c.span (!isBreak ·)).2 else c
    match c.lineBreak? with
    | some (_, c) => toNextToken fuel { r with cursor := c, keyAllowed := r.keyAllowed || !r.inFlow }
    | none => { r with cursor := c }

/-- Read all tokens. -/
def readAll : Nat → Reading → Except Fault Reading
  | 0, r => .ok r
  | fuel + 1, r => do
    let r ← (toNextToken (r.cursor.rest.length + 1) r).dropStale
    let r := r.unwind (some r.cursor.column)
    match r.cursor.rest with
    | [] => r.closeAll
    | ch :: _ => readAll fuel (← r.readToken ch)

end Reading

/-- The characters that a document may hold. -/
def isPrintable (c : Char) : Bool :=
  let n := c.toNat
  c = '\t' || c = '\n' || c = '\r' || c = '\x85' || (0x20 ≤ n && n ≤ 0x7e) ||
    (0xa0 ≤ n && n ≠ 0xfffe && n ≠ 0xffff)

/-- The tokens of a text. A byte order mark at its start is skipped. -/
def tokensOf (s : List Char) : Except Fault (Array Placed) := do
  let c : Cursor := ⟨s, 0, 0, 0⟩
  match s.find? (!isPrintable ·) with
  | some ch => c.refuse ("the character " ++ Text.quoted (String.singleton ch))
  | none =>
    let c := if c.ahead 0 = some '\ufeff' then c.next else c
    return (← Reading.readAll (s.length + 1) { cursor := c }).tokens

end DeferredViews.Yaml
