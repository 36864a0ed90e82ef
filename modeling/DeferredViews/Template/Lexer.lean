import DeferredViews.Template.Literal
import DeferredViews.Template.Token
import DeferredViews.Text.Blank
import DeferredViews.Text.Lines
import DeferredViews.Text.Word

/-!
# Reading a template into tokens

Text runs up to the next tag. A minus sign inside the marks of a tag removes the blanks next to
it. Inside a tag brackets must balance, and the closing mark counts only where none is open. Raw
sections are text whatever they hold; comments vanish.
-/
namespace DeferredViews.Template

open Text

/-- Where reading stands: what is left, its distance from the start, and the current line. -/
structure Cursor where
  rest : List Char
  position : Nat
  line : Nat

/-- Move on to `rest`, which is what is left after some characters were read. -/
def Cursor.moveTo (c : Cursor) (rest : List Char) : Cursor :=
  let size := c.rest.length - rest.length
  { rest
    position := c.position + size
    line := c.line + (c.rest.take size).count '\n' }

/-- The mark before or after the inner side of a tag that asks to keep or remove blanks. -/
inductive Sign where
  | none
  | keep
  | strip
  deriving DecidableEq, Repr

def readSign : List Char → Sign × List Char
  | '-' :: rest => (.strip, rest)
  | '+' :: rest => (.keep, rest)
  | rest => (.none, rest)

/-- The text before the next opening mark, and the text from that mark on. -/
def untilOpening : List Char → List Char × List Char
  | [] => ([], [])
  | '{' :: c :: rest =>
    if c = '{' ∨ c = '%' ∨ c = '#' then ([], '{' :: c :: rest)
    else
      let (text, more) := untilOpening (c :: rest)
      ('{' :: text, more)
  | c :: rest =>
    let (text, more) := untilOpening rest
    (c :: text, more)

/-- What follows a closing mark at the start of the text. A minus sign takes the blanks after the
mark along; a plus sign is allowed only where `keep` says so. -/
def closing? (keep : Bool) (first second : Char) (s : List Char) : Option (List Char) :=
  match s with
  | '-' :: a :: b :: rest =>
    if a = first ∧ b = second then some (rest.dropWhile isBlank) else none
  | '+' :: a :: b :: rest => if keep ∧ a = first ∧ b = second then some rest else none
  | a :: b :: rest => if a = first ∧ b = second then some rest else none
  | _ => none

/-- What follows a whole `raw` or `endraw` tag at the start of the text, with its first sign. -/
def rawTag? (keep : Bool) (word : String) (s : List Char) : Option (Sign × List Char) := do
  let rest ← dropPattern? ['{', '%'] s
  let (sign, rest) := readSign rest
  let rest ← dropPattern? word.toList (rest.dropWhile isBlank)
  let rest ← closing? keep '%' '}' (rest.dropWhile isBlank)
  some (sign, rest)

/-- The body of a comment ends at the first closing mark. -/
def afterComment : List Char → Option (List Char)
  | [] => none
  | c :: rest =>
    match closing? true '#' '}' (c :: rest) with
    | some more => some more
    | none => afterComment rest

/-- The text of a raw section and what follows the tag that ends it. -/
def rawSection : List Char → Option (List Char × Sign × List Char)
  | [] => none
  | c :: rest =>
    match rawTag? true "endraw" (c :: rest) with
    | some (sign, more) => some ([], sign, more)
    | none => (rawSection rest).map fun (text, sign, more) => (c :: text, sign, more)

/-- Text without the blanks at its end where the tag after it asks for that. -/
def stripFor (sign : Sign) (text : List Char) : List Char :=
  if sign = .strip then trimEnd text else text

/-- The longest symbol at the start of the text. -/
def readSymbol (s : List Char) : Option (String × List Char) :=
  let two := ["//", "**", "==", "!=", ">=", "<="]
  let one := "+-/*%~[](){}><=.:|,;".toList
  match two.findSome? fun t => (dropPattern? t.toList s).map (t, ·) with
  | some found => some found
  | none =>
    match s with
    | c :: rest => if c ∈ one then some (String.singleton c, rest) else none
    | [] => none

def closerOf : Char → Char
  | '(' => ')'
  | '[' => ']'
  | _ => '}'

/-- The brackets still to be closed after a symbol, or the complaint about a wrong bracket. -/
def balance (open_ : List Char) (symbol : String) : Except String (List Char) :=
  match symbol.toList with
  | [c] =>
    if c ∈ "([\x7b".toList then .ok (closerOf c :: open_)
    else if c ∈ ")]\x7d".toList then
      match open_ with
      | [] => .error ("unexpected '" ++ symbol ++ "'")
      | expected :: more =>
        if expected = c then .ok more
        else .error ("unexpected '" ++ symbol ++ "', expected '" ++ String.singleton expected ++ "'")
    else .ok open_
  | _ => .ok open_

def Stream.stop : Stream := ⟨[], none⟩

def Stream.refuse (line : Nat) (message : String) : Stream := ⟨[], some ⟨message, line, false⟩⟩

/-- Push literal text unless it is empty. -/
def Stream.pushData (line : Nat) (text : List Char) (s : Stream) : Stream :=
  if text.isEmpty then s else s.push line (.data (String.ofList text))

/-- One thing inside a tag, after blanks and the closing mark were looked for. -/
inductive Piece where
  | token (t : Token) (open_ : List Char) (rest : List Char)
  | refused (message : String)

/-- Read one token inside a tag. `afterPoint` says that the character before it is a point, which
keeps a fraction from starting there. -/
def readPiece (afterPoint : Bool) (open_ : List Char) (position : Nat) (s : List Char) : Piece :=
  match (if afterPoint then none else readFloat s) with
  | some (x, rest) => .token (.float x) open_ rest
  | none =>
    match readInteger s with
    | some (n, rest) => .token (.integer n) open_ rest
    | none =>
      match s with
      | [] => .refused ""
      | c :: more =>
        if isNameChar c then
          let word := s.takeWhile isNameChar
          if isIdentifier word then .token (.name (String.ofList word)) open_ (s.dropWhile isNameChar)
          else .refused "Invalid character in identifier"
        else
          match (if c = '\'' ∨ c = '"' then readQuoted c more else none) with
          | some (raw, rest) =>
            match literalText raw with
            | .ok text => .token (.string text) open_ rest
            | .error trouble => .refused trouble
          | none =>
            match readSymbol s with
            | some (symbol, rest) =>
              match balance open_ symbol with
              | .ok open_ => .token (.symbol symbol) open_ rest
              | .error trouble => .refused trouble
            | none =>
              .refused ("unexpected char " ++ quoted (String.singleton c) ++ " at " ++
                toString position)

mutual

/-- Read from literal text on. -/
def lexText : Nat → Cursor → Stream
  | 0, _ => .stop
  | fuel + 1, c =>
    match untilOpening c.rest with
    | (text, []) => Stream.pushData c.line text .stop
    | (text, rest) =>
      let tag := c.moveTo rest
      match rawTag? false "raw" rest with
      | some (sign, more) =>
        Stream.pushData c.line (stripFor sign text) (lexRaw fuel (tag.moveTo more))
      | none =>
        let (sign, inner) := readSign (rest.drop 2)
        Stream.pushData c.line (stripFor sign text) <|
          match rest with
          | _ :: '{' :: _ => (lexTag fuel false [] false (tag.moveTo inner)).push tag.line .printBegin
          | _ :: '%' :: _ => (lexTag fuel true [] false (tag.moveTo inner)).push tag.line .blockBegin
          | _ => lexComment fuel (tag.moveTo inner)

/-- Read from inside a comment on. -/
def lexComment : Nat → Cursor → Stream
  | 0, _ => .stop
  | fuel + 1, c =>
    match afterComment c.rest with
    | some rest => lexText fuel (c.moveTo rest)
    | none =>
      if c.rest.isEmpty then .stop else .refuse c.line "Missing end of comment tag"

/-- Read from inside a raw section on. -/
def lexRaw : Nat → Cursor → Stream
  | 0, _ => .stop
  | fuel + 1, c =>
    match rawSection c.rest with
    | some (text, sign, rest) =>
      Stream.pushData c.line (stripFor sign text) (lexText fuel (c.moveTo rest))
    | none =>
      if c.rest.isEmpty then .stop else .refuse c.line "Missing end of raw directive"

/-- Read from inside a tag on; `block` tells a statement from an expression to print. -/
def lexTag : Nat → Bool → List Char → Bool → Cursor → Stream
  | 0, _, _, _, _ => .stop
  | fuel + 1, block, open_, afterPoint, c =>
    let close : Option (List Char) :=
      if open_.isEmpty then
        if block then closing? true '%' '}' c.rest else closing? false '}' '}' c.rest
      else none
    match close with
    | some rest =>
      (lexText fuel (c.moveTo rest)).push c.line (if block then .blockEnd else .printEnd)
    | none =>
      match c.rest with
      | [] => .stop
      | ch :: _ =>
        if isBlank ch then
          lexTag fuel block open_ false (c.moveTo (c.rest.dropWhile isBlank))
        else
          match readPiece afterPoint open_ c.position c.rest with
          | .token t open_ rest =>
            (lexTag fuel block open_ (t == .symbol ".") (c.moveTo rest)).push c.line t
          | .refused message => .refuse c.line message

end

/-- The source as it is read: line ends unified and one line end dropped from the end. -/
def normalize (source : String) : List Char :=
  let s := unifyLineEnds source.toList
  if s.getLast? = some '\n' then s.dropLast else s

/-- The tokens of a template. -/
def tokens (source : String) : Stream :=
  let s := normalize source
  lexText (2 * s.length + 2) ⟨s, 0, 1⟩

end DeferredViews.Template
