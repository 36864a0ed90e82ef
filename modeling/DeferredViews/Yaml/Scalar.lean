import DeferredViews.Text.Digit
import DeferredViews.Yaml.Cursor

/-!
# The text of scalars

A scalar is written as a block of lines, between quotes, or plain. A single line end inside a
quoted or plain scalar is a space, and every empty line after it is a line end; a block keeps its
lines or folds them in the same way.
-/
namespace DeferredViews.Yaml

open Text

/-! ## Blocks -/

/-- How many blanks a block takes off, if it says so, and what it does with the line ends at its
end: keep all or none, or else just one. -/
structure BlockHeader where
  indent : Option Nat := none
  keepEnds : Option Bool := none
  deriving DecidableEq, Repr

/-- The sign for the line ends of a block. -/
def readKeepEnds (c : Cursor) : Option Bool × Cursor :=
  match c.rest with
  | '+' :: _ => (some true, c.next)
  | '-' :: _ => (some false, c.next)
  | _ => (none, c)

/-- The digit for the indentation of a block, which is not zero. -/
def readIndent (c : Cursor) : Except Fault (Option Nat × Cursor) :=
  match c.rest with
  | d :: _ =>
    if d = '0' then c.refuse "an indentation of zero"
    else if d.isDigit then .ok (some (hexValue d), c.next)
    else .ok (none, c)
  | [] => .ok (none, c)

/-- A comment may follow to the end of the line. -/
def readLineRest (c : Cursor) : Except Fault Cursor :=
  let (_, c) := c.span (· = ' ')
  let c := if c.ahead 0 = some '#' then (c.span (!isBreak ·)).2 else c
  if endsLine (c.ahead 0) then .ok ((c.lineBreak?.map (·.2)).getD c)
  else c.refuse "expected a comment or a line end"

def readBlockHeader (c : Cursor) : Except Fault (BlockHeader × Cursor) := do
  let (first, c) := readKeepEnds c
  let (indent, c) ← readIndent c
  let (keepEnds, c) := if first.isNone then readKeepEnds c else (first, c)
  if endsLine (c.ahead 0) || c.ahead 0 = some ' ' then
    .ok (⟨indent, keepEnds⟩, ← readLineRest c)
  else c.refuse "expected the end of the indicators of a block"

/-- Go on to a column over blanks. -/
def indentTo (indent : Nat) (c : Cursor) : Cursor :=
  c.skip (min (indent - c.column) (c.rest.takeWhile (· = ' ')).length)

/-- The line ends of empty lines; the cursor then stands in the next line, at the given column if
that line is indented so far. -/
def emptyLines (indent : Nat) : Nat → Cursor → List Char × Cursor
  | 0, c => ([], c)
  | fuel + 1, c =>
    let c := indentTo indent c
    match c.lineBreak? with
    | some (b, c) =>
      let (more, c) := emptyLines indent fuel c
      (b :: more, c)
    | none => ([], c)

/-- The line ends of empty lines, and the widest indentation of these and the next line. -/
def widestIndent : Nat → Nat → Cursor → List Char × Nat × Cursor
  | 0, widest, c => ([], widest, c)
  | fuel + 1, widest, c =>
    if c.ahead 0 = some ' ' then widestIndent fuel (max widest (c.column + 1)) c.next
    else
      match c.lineBreak? with
      | some (b, c) =>
        let (more, widest, c) := widestIndent fuel widest c
        (b :: more, widest, c)
      | none => ([], widest, c)

/-- The lines of a block: the text up to the end of the last line, that end, and the ends of the
empty lines after it. -/
structure BlockLines where
  text : List Char
  lineEnd : List Char
  tail : List Char
  cursor : Cursor

/-- Whether a line starts with a blank, which keeps it from being folded. -/
def startsBlank (c : Cursor) : Bool := (c.ahead 0).any isSpace

def readBlockLines (folded : Bool) (indent : Nat) : Nat → List Char → Cursor → BlockLines
  | 0, empty, c => ⟨[], [], empty, c⟩
  | fuel + 1, empty, c =>
    if c.column = indent ∧ c.rest ≠ [] then
      let blank := startsBlank c
      let (line, c) := c.span (!isBreak ·)
      let (lineEnd, c) : List Char × Cursor :=
        match c.lineBreak? with
        | some (b, c) => ([b], c)
        | none => ([], c)
      let (more, c) := emptyLines indent (c.rest.length + 1) c
      if c.column = indent ∧ c.rest ≠ [] then
        let glue :=
          if folded && lineEnd = ['\n'] && !blank && !startsBlank c then
            if more.isEmpty then [' '] else []
          else lineEnd
        let rest := readBlockLines folded indent fuel more c
        { rest with text := empty ++ line ++ glue ++ rest.text }
      else ⟨empty ++ line, lineEnd, more, c⟩
    else ⟨[], [], empty, c⟩

/-- The text of a block with the line ends at its end that it keeps. -/
def BlockLines.scalar (b : BlockLines) (keepEnds : Option Bool) : List Char :=
  b.text ++ (if keepEnds = some false then [] else b.lineEnd) ++
    (if keepEnds = some true then b.tail else [])

/-- Read a block from its mark on; its lines are indented by at least `least`. -/
def readBlock (folded : Bool) (least : Nat) (c : Cursor) :
    Except Fault (List Char × Cursor) := do
  let (header, c) ← readBlockHeader c.next
  let least := max 1 least
  let (empty, indent, c) : List Char × Nat × Cursor :=
    match header.indent with
    | none =>
      let (empty, widest, c) := widestIndent (c.rest.length + 1) 0 c
      (empty, max least widest, c)
    | some n =>
      let indent := least + n - 1
      let (empty, c) := emptyLines indent (c.rest.length + 1) c
      (empty, indent, c)
  let block := readBlockLines folded indent (c.rest.length + 1) empty c
  .ok (block.scalar header.keepEnds, block.cursor)

/-! ## Quotes -/

/-- The character that a letter after a backslash stands for. -/
def escaped? : Char → Option Char
  | '0' => some '\x00'
  | 'a' => some '\x07'
  | 'b' => some '\x08'
  | 't' | '\t' => some '\t'
  | 'n' => some '\n'
  | 'v' => some '\x0b'
  | 'f' => some '\x0c'
  | 'r' => some '\r'
  | 'e' => some '\x1b'
  | ' ' => some ' '
  | '"' => some '"'
  | '\\' => some '\\'
  | '/' => some '/'
  | 'N' => some '\x85'
  | '_' => some '\xa0'
  | 'L' => some '\u2028'
  | 'P' => some '\u2029'
  | _ => none

/-- How many digits the code point after a letter has. -/
def codeWidth? : Char → Option Nat
  | 'x' => some 2
  | 'u' => some 4
  | 'U' => some 8
  | _ => none

/-- The character of a code point. A surrogate is no character and is replaced. -/
def ofCode (n : Nat) : Except Fault Char :=
  if Nat.pow 2 31 ≤ n then .error (.overflow .codePoint)
  else if 0x110000 ≤ n then .error (.value "chr() arg not in range(0x110000)")
  else if 0xd800 ≤ n ∧ n < 0xe000 then .ok '\ufffd'
  else .ok (Char.ofNat n)

/-- The line ends of empty lines inside quotes, whose blanks do not count. A document mark may not
stand there. -/
def quotedBreaks : Nat → Cursor → Except Fault (List Char × Cursor)
  | 0, c => .ok ([], c)
  | fuel + 1, c =>
    if c.atDocumentMark then c.refuse "a document mark inside quotes"
    else
      let (_, c) := c.span isSpace
      match c.lineBreak? with
      | some (b, c) => do
        let (more, c) ← quotedBreaks fuel c
        .ok (b :: more, c)
      | none => .ok ([], c)

/-- The text that a line end and the empty lines after it stand for. -/
def foldBreaks (first : Char) (more : List Char) : List Char :=
  if first ≠ '\n' then first :: more
  else if more.isEmpty then [' '] else more

/-- What a backslash and the characters after it stand for. -/
def readEscape (c : Cursor) : Except Fault (List Char × Cursor) :=
  match c.rest with
  | [] => c.refuse "the text ends after a backslash"
  | ch :: _ =>
    match escaped? ch, codeWidth? ch with
    | some e, _ => .ok ([e], c.next)
    | none, some width => do
      let digits := c.next.rest.take width
      if digits.length = width ∧ digits.all isHexDigit then
        let code ← ofCode (readDigits 16 hexValue digits)
        .ok ([code], c.next.skip width)
      else c.next.refuse "expected hexadecimal digits"
    | none, none =>
      match c.lineBreak? with
      | some (_, c) => quotedBreaks (c.rest.length + 1) c
      | none => c.refuse "an unknown escape"

/-- Read between quotes up to a blank, a line end or the closing quote. -/
def quotedWord (double : Bool) : Nat → Cursor → Except Fault (List Char × Cursor)
  | 0, c => .ok ([], c)
  | fuel + 1, c =>
    let goOn (s : List Char) (c : Cursor) : Except Fault (List Char × Cursor) := do
      let (more, c) ← quotedWord double fuel c
      .ok (s ++ more, c)
    match c.rest with
    | [] => .ok ([], c)
    | ch :: rest =>
      if isSpace ch || isBreak ch then .ok ([], c)
      else if double then
        if ch = '"' then .ok ([], c)
        else if ch = '\\' then do
          let (s, c) ← readEscape c.next
          goOn s c
        else goOn [ch] c.next
      else if ch = '\'' then
        if rest.head? = some '\'' then goOn [ch] (c.skip 2) else .ok ([], c)
      else goOn [ch] c.next

/-- Read blanks or line ends between quotes. -/
def quotedGap (c : Cursor) : Except Fault (List Char × Cursor) :=
  let (blanks, c) := c.span isSpace
  if c.rest.isEmpty then c.refuse "the text ends inside quotes"
  else
    match c.lineBreak? with
    | none => .ok (blanks, c)
    | some (b, c) => do
      let (more, c) ← quotedBreaks (c.rest.length + 1) c
      .ok (foldBreaks b more, c)

/-- Read up to the closing quote, and the quote. -/
def quotedText (double : Bool) : Nat → Cursor → Except Fault (List Char × Cursor)
  | 0, c => c.refuse "the text ends inside quotes"
  | fuel + 1, c => do
    let (word, c) ← quotedWord double (c.rest.length + 1) c
    if c.ahead 0 = some (if double then '"' else '\'') then .ok (word, c.next)
    else
      let (gap, c) ← quotedGap c
      let (more, c) ← quotedText double fuel c
      .ok (word ++ gap ++ more, c)

/-- Read a scalar between quotes, from its opening quote on. -/
def readQuotedScalar (double : Bool) (c : Cursor) : Except Fault (List Char × Cursor) :=
  quotedText double (c.rest.length + 1) c.next

/-! ## Plain scalars -/

/-- How many characters of a plain scalar stand before the next blank or indicator. -/
def plainLength (inFlow : Bool) : List Char → Nat
  | [] => 0
  | ch :: rest =>
    if isSpace ch || isBreak ch then 0
    else if ch = ':' && (endsWord rest.head? ||
        inFlow && rest.head?.any (",[]\x7b\x7d".toList.contains ·)) then 0
    else if inFlow && ",?[]\x7b\x7d".toList.contains ch then 0
    else plainLength inFlow rest + 1

/-- The line ends of empty lines inside a plain scalar, or nothing before a document mark. -/
def plainBreaks : Nat → Cursor → Option (List Char) × Cursor
  | 0, c => (some [], c)
  | fuel + 1, c =>
    let (_, c) := c.span (· = ' ')
    match c.lineBreak? with
    | none => (some [], c)
    | some (b, c) =>
      if c.atDocumentMark then (none, c)
      else
        let (more, c) := plainBreaks fuel c
        (more.map (b :: ·), c)

/-- What stands between two words of a plain scalar: its text, empty if the scalar ends, and
whether it holds a line end. -/
structure PlainGap where
  text : List Char
  broken : Bool
  cursor : Cursor

def readPlainGap (c : Cursor) : PlainGap :=
  let (blanks, c) := c.span (· = ' ')
  match c.lineBreak? with
  | none => ⟨blanks, false, c⟩
  | some (b, c) =>
    if c.atDocumentMark then ⟨[], true, c⟩
    else
      match plainBreaks (c.rest.length + 1) c with
      | (none, c) => ⟨[], true, c⟩
      | (some more, c) => ⟨foldBreaks b more, true, c⟩

/-- Read a plain scalar whose lines are indented by at least `least`; the gap before its next word
was read already. A line end may come after its last word. -/
def plainWords (inFlow : Bool) (least : Nat) : Nat → PlainGap → PlainGap
  | 0, gap => { gap with text := [] }
  | fuel + 1, gap =>
    let c := gap.cursor
    let size := plainLength inFlow c.rest
    if c.ahead 0 = some '#' ∨ size = 0 then { gap with text := [] }
    else
      let word := c.rest.take size
      let after := readPlainGap (c.skip size)
      if after.text.isEmpty ∨ after.cursor.ahead 0 = some '#' ∨
          (!inFlow ∧ after.cursor.column < least) then
        { after with text := gap.text ++ word }
      else
        let more := plainWords inFlow least fuel after
        { more with text := gap.text ++ word ++ more.text }

/-- Read a plain scalar: its text, and whether a line end comes after its last word. -/
def readPlain (inFlow : Bool) (least : Nat) (c : Cursor) : PlainGap :=
  plainWords inFlow least (c.rest.length + 1) ⟨[], false, c⟩

end DeferredViews.Yaml
