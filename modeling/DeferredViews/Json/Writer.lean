import DeferredViews.Text.Digit
import DeferredViews.Text.Search
import DeferredViews.Value.Text

/-!
# Writing JSON

JSON is written in printable ASCII on one line: every other character is escaped, beyond the basic
plane as a pair of surrogates. A comma and a colon are followed by a space. Values that JSON does
not know are written as their text.
-/
namespace DeferredViews.Json

open Text Number

/-- An escape by code unit. -/
def unitEscape (n : Nat) : List Char := '\\' :: 'u' :: toHex 4 n

/-- The written form of one character of a text. -/
def writeChar (c : Char) : List Char :=
  if c = '"' ∨ c = '\\' then ['\\', c]
  else if c = '\n' then ['\\', 'n']
  else if c = '\r' then ['\\', 'r']
  else if c = '\t' then ['\\', 't']
  else if c = '\x08' then ['\\', 'b']
  else if c = '\x0c' then ['\\', 'f']
  else
    let n := c.toNat
    if 0x20 ≤ n ∧ n < 0x7f then [c]
    else if n < 0x10000 then unitEscape n
    else
      unitEscape (0xd800 + (n - 0x10000) / 0x400) ++ unitEscape (0xdc00 + (n - 0x10000) % 0x400)

def writeText (s : List Char) : List Char := '"' :: s.flatMap writeChar ++ ['"']

def writeDouble (x : Double) : List Char :=
  match x.shape with
  | .nan => "NaN".toList
  | .infinite negative => if negative then "-Infinity".toList else "Infinity".toList
  | .finite .. => x.text.toList

/-- The text of a key of an object. -/
def keyText : Value → List Char
  | .null => "null".toList
  | .bool b => (if b then "true" else "false").toList
  | .float x => writeDouble x
  | v => v.text.toList

mutual

def writeValue : Value → List Char
  | .null => "null".toList
  | .bool b => (if b then "true" else "false").toList
  | .int n => (toString n).toList
  | .float x => writeDouble x
  | .str s | .markup s => writeText s.toList
  | .list items | .tuple items => '[' :: joinWith [',', ' '] (writeItems items) ++ [']']
  | .dict entries => '\x7b' :: joinWith [',', ' '] (writeEntries entries) ++ ['\x7d']
  | v => writeText v.text.toList

def writeItems : List Value → List (List Char)
  | [] => []
  | v :: more => writeValue v :: writeItems more

def writeEntries : List (Value × Value) → List (List Char)
  | [] => []
  | (k, v) :: more =>
    (writeText (keyText k) ++ ':' :: ' ' :: writeValue v) :: writeEntries more

end

/-- The JSON text of a value. -/
def write (v : Value) : String := String.ofList (writeValue v)

end DeferredViews.Json
