import DeferredViews.Fault

/-!
# Reading positions

A document is read from a cursor that knows how many characters were read and on which line and
column it stands, since indentation carries meaning. Moving the cursor never adds text: what is
left after a move is a tail of what was left before it.
-/
namespace DeferredViews.Yaml

/-- What is left to read, and the place where it starts. -/
structure Cursor where
  rest : List Char
  index : Nat := 0
  line : Nat := 0
  column : Nat := 0
  deriving DecidableEq, Repr

/-- The characters that end a line. -/
def isBreak (c : Char) : Bool := c = '\n' || c = '\x85' || c = '\u2028' || c = '\u2029'

def isSpace (c : Char) : Bool := c = ' ' || c = '\t'

/-- Whether a line ends here: at a break or with the text. -/
def endsLine : Option Char → Bool
  | none => true
  | some c => isBreak c

/-- Whether a word ends here: at a blank or with the line. -/
def endsWord : Option Char → Bool
  | none => true
  | some c => isSpace c || isBreak c

namespace Cursor

/-- The character that stands some characters ahead. -/
def ahead (c : Cursor) (k : Nat) : Option Char := c.rest[k]?

/-- Read one character. A byte order mark takes no column. -/
def next (c : Cursor) : Cursor :=
  match c.rest with
  | [] => c
  | ch :: rest =>
    if isBreak ch then ⟨rest, c.index + 1, c.line + 1, 0⟩
    else ⟨rest, c.index + 1, c.line, if ch = '\ufeff' then c.column else c.column + 1⟩

/-- Read some characters. -/
def skip : Nat → Cursor → Cursor
  | 0, c => c
  | n + 1, c => skip n c.next

/-- Read as long as the characters pass a test. -/
def span (p : Char → Bool) (c : Cursor) : List Char × Cursor :=
  let s := c.rest.takeWhile p
  (s, c.skip s.length)

/-- Read the end of a line, if one stands here, as the character that it means. -/
def lineBreak? (c : Cursor) : Option (Char × Cursor) :=
  match c.rest with
  | ch :: _ => if isBreak ch then some (if ch = '\x85' then '\n' else ch, c.next) else none
  | [] => none

/-- Whether a line here holds the mark that starts or ends a document. -/
def atDocumentMark (c : Cursor) : Bool :=
  (c.rest.take 3 = ['-', '-', '-'] || c.rest.take 3 = ['.', '.', '.']) && endsWord (c.ahead 3)

/-- Refuse what stands here. -/
def refuse {α : Type} (c : Cursor) (problem : String) : Except Fault α :=
  .error (.malformed (problem ++ " in line " ++ toString (c.line + 1) ++ ", column " ++
    toString (c.column + 1)))

end Cursor
end DeferredViews.Yaml
