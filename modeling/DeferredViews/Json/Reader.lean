import DeferredViews.Number.Double
import DeferredViews.Text.Digit
import DeferredViews.Text.Search
import DeferredViews.Value.Compare

/-!
# Reading JSON

A JSON text is read into a value: a number with a point or an exponent is a double, any other an
integer of any size; an object keeps the order of its keys, a later one with the same name taking
the place of the earlier one.
-/
namespace DeferredViews.Json

open Text Number

def isSpace (c : Char) : Bool := c = ' ' || c = '\n' || c = '\r' || c = '\t'

def skipSpace (s : List Char) : List Char := s.dropWhile isSpace

def isAsciiDigit (c : Char) : Bool := '0' ≤ c && c ≤ '9'

def digitsValue (ds : List Char) : Nat := readDigits 10 (fun c => c.toNat - '0'.toNat) ds

/-- Four hexadecimal digits. -/
def readUnit (s : List Char) : Option (Nat × List Char) :=
  match s with
  | a :: b :: c :: d :: rest =>
    if [a, b, c, d].all isHexDigit then some (readDigits 16 hexValue [a, b, c, d], rest) else none
  | _ => none

/-- The character of a code unit, with the second half of a surrogate pair if there is one. -/
def readEscapedUnit (s : List Char) : Option (Char × List Char) := do
  let (n, rest) ← readUnit s
  if 0xd800 ≤ n ∧ n < 0xdc00 then
    match rest with
    | '\\' :: 'u' :: more =>
      let (m, after) ← readUnit more
      if 0xdc00 ≤ m ∧ m < 0xe000 then
        some (Char.ofNat (0x10000 + (n - 0xd800) * 0x400 + (m - 0xdc00)), after)
      else some ('\ufffd', rest)
    | _ => some ('\ufffd', rest)
  else if 0xdc00 ≤ n ∧ n < 0xe000 then some ('\ufffd', rest)
  else some (Char.ofNat n, rest)

/-- The character that a letter after a backslash stands for. -/
def simpleEscape : Char → Option Char
  | '"' => some '"'
  | '\\' => some '\\'
  | '/' => some '/'
  | 'b' => some '\x08'
  | 'f' => some '\x0c'
  | 'n' => some '\n'
  | 'r' => some '\r'
  | 't' => some '\t'
  | _ => none

/-- The rest of a quoted text after its opening quote. -/
def readQuoted : Nat → List Char → Option (List Char × List Char)
  | 0, _ => none
  | _, [] => none
  | _, '"' :: rest => some ([], rest)
  | fuel + 1, '\\' :: 'u' :: rest => do
    let (c, rest) ← readEscapedUnit rest
    let (s, rest) ← readQuoted fuel rest
    some (c :: s, rest)
  | fuel + 1, '\\' :: e :: rest => do
    let c ← simpleEscape e
    let (s, rest) ← readQuoted fuel rest
    some (c :: s, rest)
  | fuel + 1, c :: rest => do
    let (s, rest) ← readQuoted fuel rest
    some (c :: s, rest)

/-- The fraction after the whole part of a number. -/
def readFraction (s : List Char) : Option (List Char) × List Char :=
  match s with
  | '.' :: rest =>
    if (rest.takeWhile isAsciiDigit).isEmpty then (none, s)
    else (some (rest.takeWhile isAsciiDigit), rest.dropWhile isAsciiDigit)
  | _ => (none, s)

def readExponent (s : List Char) : Option Int × List Char :=
  match s with
  | e :: rest =>
    if e = 'e' ∨ e = 'E' then
      let (negative, rest) := match rest with
        | '-' :: r => (true, r)
        | '+' :: r => (false, r)
        | r => (false, r)
      let n : Int := digitsValue (rest.takeWhile isAsciiDigit)
      if (rest.takeWhile isAsciiDigit).isEmpty then (none, s)
      else (some (if negative then -n else n), rest.dropWhile isAsciiDigit)
    else (none, s)
  | [] => (none, s)

def readNumber (s : List Char) : Option (Value × List Char) :=
  let (negative, s) := match s with
    | '-' :: r => (true, r)
    | r => (false, r)
  let whole := s.takeWhile isAsciiDigit
  if whole.isEmpty then none
  else
    let (fraction, rest) := readFraction (s.dropWhile isAsciiDigit)
    let (exponent, rest) := readExponent rest
    match fraction, exponent with
    | none, none =>
      let n : Int := digitsValue whole
      some (.int (if negative then -n else n), rest)
    | _, _ =>
      let ds := fraction.getD []
      some (.float (Double.ofDecimal negative (digitsValue (whole ++ ds))
        (exponent.getD 0 - ds.length)), rest)

/-- A word at the start of the text. -/
def readWord (word : String) (v : Value) (s : List Char) : Option (Value × List Char) :=
  (dropPattern? word.toList s).map (v, ·)

mutual

def readValue : Nat → List Char → Option (Value × List Char)
  | 0, _ => none
  | fuel + 1, s =>
    match skipSpace s with
    | '"' :: rest => (readQuoted (rest.length + 1) rest).map fun (t, r) =>
        (.str (String.ofList t), r)
    | '[' :: rest =>
      match skipSpace rest with
      | ']' :: r => some (.list [], r)
      | _ => (readItems fuel rest).map fun (vs, r) => (.list vs, r)
    | '\x7b' :: rest =>
      match skipSpace rest with
      | '\x7d' :: r => some (.dict [], r)
      | _ => (readEntries fuel rest).map fun (es, r) => (Value.ofEntries es, r)
    | 'n' :: rest => readWord "null" .null ('n' :: rest)
    | 't' :: rest => readWord "true" (.bool true) ('t' :: rest)
    | 'f' :: rest => readWord "false" (.bool false) ('f' :: rest)
    | s => readNumber s

/-- The items of an array, and what follows its closing bracket. -/
def readItems : Nat → List Char → Option (List Value × List Char)
  | 0, _ => none
  | fuel + 1, s => do
    let (v, rest) ← readValue fuel s
    match skipSpace rest with
    | ',' :: r => do
      let (vs, r) ← readItems fuel r
      some (v :: vs, r)
    | ']' :: r => some ([v], r)
    | _ => none

/-- The entries of an object, and what follows its closing brace. -/
def readEntries : Nat → List Char → Option (List (Value × Value) × List Char)
  | 0, _ => none
  | fuel + 1, s => do
    match skipSpace s with
    | '"' :: rest => do
      let (k, rest) ← readQuoted (rest.length + 1) rest
      match skipSpace rest with
      | ':' :: r => do
        let (v, rest) ← readValue fuel r
        match skipSpace rest with
        | ',' :: r => do
          let (es, r) ← readEntries fuel r
          some ((.str (String.ofList k), v) :: es, r)
        | '\x7d' :: r => some ([(.str (String.ofList k), v)], r)
        | _ => none
      | _ => none
    | _ => none

end

/-- Read a whole JSON text. -/
def read? (s : String) : Option Value :=
  match readValue (s.length + 1) s.toList with
  | some (v, rest) => if (skipSpace rest).isEmpty then some v else none
  | none => none

end DeferredViews.Json
