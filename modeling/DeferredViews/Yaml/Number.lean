import DeferredViews.Fault
import DeferredViews.Text.Blank
import DeferredViews.Text.Search

/-!
# Numbers in plain scalars

Whole numbers are decimal, binary, octal or hexadecimal, or count minutes and seconds in parts
between colons. A number with a fraction must have a point. Underscores may stand between digits.
Whether a text has the form of a number and which number it is are told apart, since an explicit
tag asks for a number whatever the form.
-/
namespace DeferredViews.Yaml

open Text Number

/-! ## Forms -/

def isSign (c : Char) : Bool := c = '+' || c = '-'

/-- A text without a sign at its start. -/
def unsigned : List Char → List Char
  | c :: s => if isSign c then s else c :: s
  | [] => []

def isNegativeText (s : List Char) : Bool := s.head? = some '-'

def isDigitOrMark (c : Char) : Bool := c.isDigit || c = '_'

/-- Digits and underscores, the first one being a digit. -/
def isGrouped : List Char → Bool
  | c :: s => c.isDigit && s.all isDigitOrMark
  | [] => false

/-- A part of a number in base sixty after the first one. -/
def isSixtieth : List Char → Bool
  | [a] => a.isDigit
  | [a, b] => '0' ≤ a && a ≤ '5' && b.isDigit
  | _ => false

/-- Whether the parts of a text between colons are those of a number in base sixty. -/
def isSixties (s : List Char) : Bool :=
  match splitOn (· == ':') s with
  | first :: second :: more => isGrouped first && (second :: more).all isSixtieth
  | _ => false

def isWhole (s : List Char) : Bool :=
  match unsigned s with
  | '0' :: 'b' :: d :: more => (d :: more).all fun c => c = '0' || c = '1' || c = '_'
  | '0' :: 'x' :: d :: more => (d :: more).all fun c => isHexDigit c || c = '_'
  | '0' :: more => more.all fun c => ('0' ≤ c && c ≤ '7') || c = '_'
  | s => isGrouped s || isSixties s

/-- Nothing, or a mark, a sign and digits. -/
def isExponent : List Char → Bool
  | [] => true
  | m :: sign :: d :: more => (m = 'e' || m = 'E') && isSign sign && (d :: more).all Char.isDigit
  | _ => false

/-- What follows the point of a number. -/
def isFraction (s : List Char) : Bool := isExponent (s.dropWhile isDigitOrMark)

/-- Whether a text before a point and one after it make a number. -/
def isPointed (signed : Bool) (whole after : List Char) : Bool :=
  if whole.isEmpty then !signed && after.head?.any Char.isDigit && isFraction after
  else (isGrouped whole && isFraction after) || (isSixties whole && after.all isDigitOrMark)

def isFractional (s : List Char) : Bool :=
  let body := unsigned s
  [".inf", ".Inf", ".INF"].contains (String.ofList body) ||
    [".nan", ".NaN", ".NAN"].contains (String.ofList s) ||
    match cutAt ['.'] body with
    | some (whole, after) => isPointed (s ≠ body) whole after
    | none => false

/-! ## Values -/

/-- The value of digits in a base, if there are any and no others. -/
def basedNumber? (base : Nat) (s : List Char) : Option Nat :=
  let isIn (c : Char) : Bool := isHexDigit c && hexValue c < base
  if s.isEmpty ∨ !s.all isIn then none else some (readDigits base hexValue s)

/-- The number that digits in a base make. -/
def basedNumber (base : Nat) (s : List Char) : Except Fault Nat :=
  match basedNumber? base s with
  | some n => .ok n
  | none =>
    .error (.value ("invalid literal for int() with base " ++ toString base ++ ": " ++
      quoted (String.ofList s)))

/-- The number whose parts in base sixty these are, the first part counting most. -/
def sixtiesNumber (parts : List (List Char)) : Except Fault Nat :=
  parts.foldlM (fun n p => do .ok (n * 60 + (← basedNumber 10 p))) 0

def magnitude (s : List Char) : Except Fault Nat :=
  match s with
  | ['0'] => .ok 0
  | '0' :: 'b' :: more => basedNumber 2 more
  | '0' :: 'x' :: more => basedNumber 16 more
  | '0' :: more => basedNumber 8 ('0' :: more)
  | s => if s.contains ':' then sixtiesNumber (splitOn (· == ':') s) else basedNumber 10 (trim s)

def withoutMarks (s : List Char) : List Char := s.filter (· ≠ '_')

/-- The whole number that a text asks for. -/
def wholeNumber (s : List Char) : Except Fault Int :=
  let s := withoutMarks s
  if s.isEmpty ∨ unsigned s = [] then .error (.index "string index out of range")
  else do
    let n : Int ← magnitude (unsigned s)
    .ok (if isNegativeText s then -n else n)

/-- The exponent after its mark. -/
def exponentNumber? (s : List Char) : Option Int := do
  let n : Int ← basedNumber? 10 (unsigned s)
  some (if isNegativeText s then -n else n)

/-- A decimal number without a sign: digits with a point among them, and possibly an exponent. -/
def decimalNumber? (s : List Char) : Option Double := do
  let isMark (c : Char) : Bool := c = 'e' || c = 'E'
  let digits := s.takeWhile (!isMark ·)
  let exponent ← match s.dropWhile (!isMark ·) with
    | [] => some 0
    | _ :: e => exponentNumber? e
  let (whole, fraction) := (cutAt ['.'] digits).getD (digits, [])
  let coefficient ← basedNumber? 10 (whole ++ fraction)
  some (Double.ofDecimal false coefficient (exponent - fraction.length))

def decimalNumber (s : List Char) : Except Fault Double :=
  match decimalNumber? (trim s) with
  | some x => .ok x
  | none =>
    .error (.value ("could not convert string to float: " ++ quoted (String.ofList s)))

/-- The sum of parts in base sixty, the last part first. -/
def sixtiesSum : Int → Double → List Double → Double
  | _, sum, [] => sum
  | unit, sum, d :: more => sixtiesSum (unit * 60) (sum.add (d.mul (.ofInt unit))) more

/-- The number that a text without a sign asks for. -/
def pointedNumber (s : List Char) : Except Fault Double :=
  if s = ".inf".toList then .ok (Double.infinity false)
  else if s = ".nan".toList then .ok Double.undetermined
  else if s.contains ':' then do
    let parts ← (splitOn (· == ':') s).mapM decimalNumber
    .ok (sixtiesSum 1 Double.zero parts.reverse)
  else decimalNumber s

/-- The number with a fraction that a text asks for. -/
def fractionalNumber (s : List Char) : Except Fault Double :=
  let s := (withoutMarks s).map Char.toLower
  if s.isEmpty then .error (.index "string index out of range")
  else do
    let x ← pointedNumber (unsigned s)
    .ok (if isNegativeText s then x.negate else x)

end DeferredViews.Yaml
