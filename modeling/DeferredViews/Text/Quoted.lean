import DeferredViews.Text.Digit
import DeferredViews.Text.Printable

/-!
# Quoted text

A text inside a larger value, or inside a message, is written in quotes: single quotes unless it
holds a single quote and no double quote. The quote, the backslash and the line and tab characters
are escaped with a backslash; other unprintable characters are written by code point.
-/
namespace DeferredViews.Text

def quoteMark (s : List Char) : Char :=
  if '\'' ∈ s ∧ '"' ∉ s then '"' else '\''

/-- A character written by its code point. -/
def byCodePoint (c : Char) : List Char :=
  if c.toNat < 0x100 then '\\' :: 'x' :: toHex 2 c.toNat
  else if c.toNat < 0x10000 then '\\' :: 'u' :: toHex 4 c.toNat
  else '\\' :: 'U' :: toHex 8 c.toNat

/-- A text with every character beyond ASCII written by its code point. -/
def asciiOnly (s : List Char) : List Char :=
  s.flatMap fun c => if c.toNat < 0x80 then [c] else byCodePoint c

/-- The written form of one character between `mark` quotes. -/
def quoteChar (mark c : Char) : List Char :=
  if c = mark ∨ c = '\\' then ['\\', c]
  else if c = '\n' then ['\\', 'n']
  else if c = '\r' then ['\\', 'r']
  else if c = '\t' then ['\\', 't']
  else if isPrintable c then [c]
  else byCodePoint c

def quoteChars (s : List Char) : List Char :=
  let mark := quoteMark s
  mark :: s.flatMap (quoteChar mark) ++ [mark]

/-- The quoted form of a text. -/
def quoted (s : String) : String := String.ofList (quoteChars s.toList)

end DeferredViews.Text
