import DeferredViews.Number.Double
import DeferredViews.Text.Digit
import DeferredViews.Text.Search

/-!
# Literals in template tags

Numbers may group their digits with single underscores. A text stands in single or double quotes;
its backslash escapes are those of plain ASCII text, a character beyond ASCII counting as its own
code point escape.
-/
namespace DeferredViews.Template

open Text Number

/-- Digits with single underscores between them: the digits and what follows. -/
def digitGroups (isDigit : Char → Bool) : List Char → Option (List Char × List Char)
  | [] => none
  | c :: rest =>
    if isDigit c then
      match rest with
      | '_' :: d :: more =>
        if isDigit d then (digitGroups isDigit (d :: more)).map fun (ds, r) => (c :: ds, r)
        else some ([c], rest)
      | rest =>
        match digitGroups isDigit rest with
        | some (ds, r) => some (c :: ds, r)
        | none => some ([c], rest)
    else none

/-- Digits after a base mark; each may follow an underscore, the first one too. -/
def basedDigits (isDigit : Char → Bool) (s : List Char) : Option (List Char × List Char) :=
  match s with
  | '_' :: rest => digitGroups isDigit rest
  | s => digitGroups isDigit s

def digitNumber (ds : List Char) : Nat := readDigits 10 (fun c => (digitValue? c).getD 0) ds

/-- An exponent: the mark, a sign and digits. -/
def readExponent (s : List Char) : Option (Int × List Char) :=
  match s with
  | c :: rest =>
    if c = 'e' ∨ c = 'E' then
      let (negative, rest) := match rest with
        | '+' :: r => (false, r)
        | '-' :: r => (true, r)
        | r => (false, r)
      (digitGroups isDigit rest).map fun (ds, r) =>
        let n : Int := digitNumber ds
        (if negative then -n else n, r)
    else none
  | [] => none

/-- A number with a fraction, an exponent or both. -/
def readFloat (s : List Char) : Option (Double × List Char) := do
  let (whole, rest) ← digitGroups isDigit s
  let (fraction, rest) : List Char × List Char := match rest with
    | '.' :: more => (digitGroups isDigit more).getD ([], rest)
    | _ => ([], rest)
  let coefficient := digitNumber (whole ++ fraction)
  match readExponent rest with
  | some (e, rest) => some (Double.ofDecimal false coefficient (e - fraction.length), rest)
  | none =>
    if fraction.isEmpty then none
    else some (Double.ofDecimal false coefficient (-(fraction.length : Int)), rest)

/-- A whole number: decimal without a leading zero, zeros, or binary, octal or hexadecimal with
its mark. -/
def readInteger (s : List Char) : Option (Nat × List Char) :=
  match s with
  | '0' :: rest =>
    let based : Option (Nat × List Char) :=
      match rest with
      | m :: more =>
        if m = 'b' ∨ m = 'B' then
          (basedDigits (fun c => c = '0' ∨ c = '1') more).map fun (ds, r) =>
            (readDigits 2 hexValue ds, r)
        else if m = 'o' ∨ m = 'O' then
          (basedDigits (fun c => '0' ≤ c ∧ c ≤ '7') more).map fun (ds, r) =>
            (readDigits 8 hexValue ds, r)
        else if m = 'x' ∨ m = 'X' then
          (basedDigits (fun c => isHexDigit c || isDigit c) more).map fun (ds, r) =>
            (readDigits 16 hexValue ds, r)
        else none
      | [] => none
    match based with
    | some found => some found
    | none => (digitGroups (· = '0') s).map fun (_, r) => (0, r)
  | c :: _ =>
    if '1' ≤ c ∧ c ≤ '9' then (digitGroups isDigit s).map fun (ds, r) => (digitNumber ds, r)
    else none
  | [] => none

/-- The raw text between two quotes, escapes kept, and what follows the closing quote. -/
def readQuoted (quote : Char) : List Char → Option (List Char × List Char)
  | [] => none
  | '\\' :: c :: rest => (readQuoted quote rest).map fun (s, r) => ('\\' :: c :: s, r)
  | c :: rest =>
    if c = quote then some ([], rest)
    else if c = '\\' then none
    else (readQuoted quote rest).map fun (s, r) => (c :: s, r)

/-- A character beyond ASCII as its own escape. -/
def asciiOnly (c : Char) : List Char :=
  let n := c.toNat
  if n < 0x80 then [c]
  else if n < 0x100 then '\\' :: 'x' :: toHex 2 n
  else if n < 0x10000 then '\\' :: 'u' :: toHex 4 n
  else '\\' :: 'U' :: toHex 8 n

/-- Exactly `n` hexadecimal digits. -/
def takeHex : Nat → List Char → Option (Nat × List Char)
  | 0, s => some (0, s)
  | n + 1, c :: rest =>
    if isHexDigit c then (takeHex n rest).map fun (v, r) => (hexValue c * Nat.pow 16 n + v, r)
    else none
  | _ + 1, [] => none

/-- Up to `n` more octal digits. -/
def takeOctal : Nat → Nat → List Char → Nat × List Char
  | 0, acc, s => (acc, s)
  | n + 1, acc, c :: rest =>
    if '0' ≤ c ∧ c ≤ '7' then takeOctal n (acc * 8 + (c.toNat - '0'.toNat)) rest
    else (acc, c :: rest)
  | _ + 1, acc, [] => (acc, [])

/-- The characters that one letter after a backslash stands for. -/
def simpleEscape : Char → Option (List Char)
  | '\n' => some []
  | '\\' => some ['\\']
  | '\'' => some ['\'']
  | '"' => some ['"']
  | 'a' => some ['\x07']
  | 'b' => some ['\x08']
  | 'f' => some ['\x0c']
  | 'n' => some ['\n']
  | 'r' => some ['\r']
  | 't' => some ['\t']
  | 'v' => some ['\x0b']
  | _ => none

/-- The number of digits and the error of an escape by code point. -/
def codePointEscape : Char → Option (Nat × String)
  | 'x' => some (2, "truncated \\xXX escape")
  | 'u' => some (4, "truncated \\uXXXX escape")
  | 'U' => some (8, "truncated \\UXXXXXXXX escape")
  | _ => none

/-- Resolve the escapes of a text. Unknown escapes stand for themselves. -/
def unescape : Nat → List Char → Except String (List Char)
  | 0, _ => .ok []
  | _, [] => .ok []
  | fuel + 1, '\\' :: c :: rest =>
    match simpleEscape c with
    | some cs => do .ok (cs ++ (← unescape fuel rest))
    | none =>
      match codePointEscape c with
      | some (digits, trouble) =>
        match takeHex digits rest with
        | none => .error trouble
        | some (n, rest) =>
          if 0x10FFFF < n then .error "illegal Unicode character"
          else do .ok (Char.ofNat n :: (← unescape fuel rest))
      | none =>
        if c = 'N' then .error "malformed \\N character escape"
        else if '0' ≤ c ∧ c ≤ '7' then
          let (n, rest) := takeOctal 2 (c.toNat - '0'.toNat) rest
          do .ok (Char.ofNat n :: (← unescape fuel rest))
        else do .ok ('\\' :: c :: (← unescape fuel rest))
  | fuel + 1, c :: rest => do .ok (c :: (← unescape fuel rest))

/-- The text that a quoted literal stands for. -/
def literalText (raw : List Char) : Except String String :=
  let s := raw.flatMap asciiOnly
  (unescape (s.length + 1) s).map String.ofList

end DeferredViews.Template
