import DeferredViews.Number.Places
import DeferredViews.Text.Search
import DeferredViews.Value.Compare
import DeferredViews.Value.Text

/-!
# Percent formats

A format is a text with directives such as `%s` or `%-5d`; each directive takes the next argument,
or, when it names a key, an entry of the single mapping argument, and writes it padded to a width.
-/
namespace DeferredViews.Value.Percent

open Text Number

/-- One directive after its `%`. -/
structure Directive where
  left : Bool := false
  plus : Bool := false
  space : Bool := false
  alternate : Bool := false
  zero : Bool := false
  width : Nat := 0
  precision : Option Nat := none
  deriving Repr

/-- The arguments still to be used, and the mapping that named directives look into. -/
structure Arguments where
  next : List Value
  mapping : Option (List (Value × Value))
  /-- Whether unused arguments are an error. -/
  strict : Bool

def Arguments.of : Value → Arguments
  | tuple xs => ⟨xs, none, true⟩
  | dict es => ⟨[dict es], some es, false⟩
  | list xs => ⟨[list xs], none, false⟩
  | absent why => ⟨[absent why], none, false⟩
  | v => ⟨[v], none, true⟩

def Arguments.take (a : Arguments) : Except Fault (Value × Arguments) :=
  match a.next with
  | [] => .error (.type (.format "not enough arguments for format string"))
  | v :: more => .ok (v, { a with next := more })

/-- The key between the parentheses of a named directive; parentheses may nest. -/
def readKey : Nat → List Char → Option (List Char × List Char)
  | _, [] => none
  | depth, ')' :: rest =>
    match depth with
    | 0 => some ([], rest)
    | depth + 1 => (readKey depth rest).map fun (k, r) => (')' :: k, r)
  | depth, '(' :: rest => (readKey (depth + 1) rest).map fun (k, r) => ('(' :: k, r)
  | depth, c :: rest => (readKey depth rest).map fun (k, r) => (c :: k, r)

def readFlags (d : Directive) : List Char → Directive × List Char
  | '-' :: rest => readFlags { d with left := true } rest
  | '+' :: rest => readFlags { d with plus := true } rest
  | ' ' :: rest => readFlags { d with space := true } rest
  | '#' :: rest => readFlags { d with alternate := true } rest
  | '0' :: rest => readFlags { d with zero := true } rest
  | rest => (d, rest)

/-- A width or precision: digits, or a star that takes it from the arguments. -/
def readCount (a : Arguments) (s : List Char) : Except Fault (Int × Arguments × List Char) :=
  match s with
  | '*' :: rest => do
    let (v, a) ← a.take
    match v.toInt? with
    | some n => .ok (n, a, rest)
    | none => .error (.type (.format "* wants int"))
  | s =>
    let isDecimal (c : Char) : Bool := '0' ≤ c && c ≤ '9'
    .ok (readDigits 10 (·.toNat - '0'.toNat) (s.takeWhile isDecimal), a, s.dropWhile isDecimal)

/-- Pad a sign and the digits after it to the width of the directive. -/
def padNumber (d : Directive) (sign digits : List Char) : List Char :=
  let fill := d.width - (sign.length + digits.length)
  if d.left then sign ++ digits ++ List.replicate fill ' '
  else if d.zero then sign ++ List.replicate fill '0' ++ digits
  else List.replicate fill ' ' ++ sign ++ digits

def padText (d : Directive) (s : List Char) : List Char :=
  let s := match d.precision with
    | some n => s.take n
    | none => s
  let fill := d.width - s.length
  if d.left then s ++ List.replicate fill ' ' else List.replicate fill ' ' ++ s

def signOf (d : Directive) (negative : Bool) : List Char :=
  if negative then ['-'] else if d.plus then ['+'] else if d.space then [' '] else []

def formatInt (d : Directive) (base : Nat) (letters : List Char) (n : Int) : List Char :=
  let digits := Nat.toDigits base n.natAbs
  let digits := if letters = ['X'] then digits.map Char.toUpper else digits
  let digits := List.replicate (d.precision.getD 0 - digits.length) '0' ++ digits
  let mark := if d.alternate ∧ base ≠ 10 then '0' :: letters else []
  padNumber d (signOf d (n < 0) ++ mark) digits

/-- The integer part of a number. -/
def wholePart (v : Value) : Except Fault (Option Int) :=
  match v.toInt?, v with
  | some n, _ => .ok (some n)
  | none, float x =>
    match x.shape with
    | .nan => .error (.value "cannot convert float NaN to integer")
    | .infinite _ => .error (.overflow .infinityToInt)
    | .finite .. => .ok (x.ratio?.map fun (n, m) => Int.tdiv n m)
  | none, _ => .ok none

def toDouble? : Value → Option Double
  | float x => some x
  | v => v.toInt?.map Double.ofInt

def formatFloat (d : Directive) (letter : Char) (x : Double) : List Char :=
  let upperCase := letter.isUpper
  let spell (s : String) : List Char := if upperCase then (s.toList.map Char.toUpper) else s.toList
  match x.shape with
  | .nan => padNumber { d with zero := false } (signOf d false) (spell "nan")
  | .infinite negative => padNumber { d with zero := false } (signOf d negative) (spell "inf")
  | .finite negative _ _ =>
    let (n, m) : Int × Nat := x.ratio?.getD (0, 1)
    let places := d.precision.getD 6
    let mark := if upperCase then 'E' else 'e'
    let digits :=
      if letter.toLower = 'f' then fixedText d.alternate places n.natAbs m
      else if letter.toLower = 'e' then scientificText d.alternate mark places n.natAbs m
      else generalText d.alternate mark places n.natAbs m
    padNumber d (signOf d negative) digits

/-- Write one argument. `plain` and `source` give the text of an argument for `%s` and `%r`. -/
def formatOne (plain source : Value → String) (d : Directive) (letter : Char) (index : Nat)
    (v : Value) : Except Fault (List Char) :=
  match letter with
  | 's' => .ok (padText d (plain v).toList)
  | 'r' => .ok (padText d (source v).toList)
  | 'a' => .ok (padText d (asciiOnly (source v).toList))
  | 'c' =>
    match v.toInt?, v.text? with
    | some n, _ =>
      if n < 0 ∨ 0x110000 ≤ n then .error (.overflow .character)
      else .ok (padText { d with precision := none } [Char.ofNat n.toNat])
    | none, some s =>
      if s.length = 1 then .ok (padText { d with precision := none } s.toList)
      else .error (.type (.format "%c requires int or char"))
    | none, none => .error (.type (.format "%c requires int or char"))
  | c =>
    if c = 'd' ∨ c = 'i' ∨ c = 'u' then do
      match ← wholePart v with
      | some n => .ok (formatInt d 10 [] n)
      | none =>
        .error (.type (.format ("%" ++ String.singleton c ++
          " format: a real number is required, not " ++ v.typeName)))
    else if c = 'x' ∨ c = 'X' ∨ c = 'o' then
      match v.toInt? with
      | some n => .ok (formatInt d (if c = 'o' then 8 else 16) [c] n)
      | none =>
        .error (.type (.format ("%" ++ String.singleton c ++
          " format: an integer is required, not " ++ v.typeName)))
    else if c.toLower = 'e' ∨ c.toLower = 'f' ∨ c.toLower = 'g' then
      match toDouble? v with
      | some x => .ok (formatFloat d c x)
      | none => .error (.type (.format ("must be real number, not " ++ v.typeName)))
    else
      .error (.value ("unsupported format character '" ++ String.singleton c ++ "' (0x" ++
        String.ofList (toHex 0 c.toNat) ++ ") at index " ++ toString index))

/-- The width, precision and letter of a directive, and what follows it. -/
def readDirective (a : Arguments) (s : List Char) :
    Except Fault (Directive × Arguments × List Char) := do
  let (d, s) := readFlags {} s
  let (width, a, s) ← readCount a s
  let d := { d with width := width.natAbs, left := d.left || width < 0 }
  match s with
  | '.' :: s => do
    let (precision, a, s) ← readCount a s
    .ok ({ d with precision := some precision.toNat }, a, s.dropWhile fun c => "hlL".contains c)
  | s => .ok (d, a, s.dropWhile fun c => "hlL".contains c)

/-- Write the rest of a format. `size` is the length of the whole format. -/
def formatFrom (plain source : Value → String) (size : Nat) :
    Nat → Arguments → List Char → Except Fault (List Char)
  | 0, _, _ => .ok []
  | _, a, [] =>
    if a.strict ∧ a.next ≠ [] then
      .error (.type (.format "not all arguments converted during string formatting"))
    else .ok []
  | fuel + 1, a, '%' :: '%' :: rest => do
    .ok ('%' :: (← formatFrom plain source size fuel a rest))
  | fuel + 1, a, '%' :: rest => do
    let (a, s) ← match rest with
      | '(' :: rest =>
        match a.mapping with
        | none => .error (.type (.format "format requires a mapping"))
        | some es =>
          match readKey 0 rest with
          | none => .error (.value "incomplete format key")
          | some (k, s) =>
            let key := str (String.ofList k)
            match find? es key with
            | none => .error (.key key.shown)
            | some v => .ok ({ a with next := [v] }, s)
      | rest => .ok (a, rest)
    let (d, a, s) ← readDirective a s
    match s with
    | [] => .error (.value "incomplete format")
    | letter :: rest => do
      let (v, a) ← a.take
      let written ← formatOne plain source d letter (size - rest.length - 1) v
      .ok (written ++ (← formatFrom plain source size fuel a rest))
  | fuel + 1, a, c :: rest => do
    .ok (c :: (← formatFrom plain source size fuel a rest))

/-- Fill a format with its arguments: a tuple gives one argument per directive. -/
def format (plain source : Value → String) (s : String) (args : Value) : Except Fault String :=
  let cs := s.toList
  (formatFrom plain source cs.length (cs.length + 1) (Arguments.of args) cs).map String.ofList

end DeferredViews.Value.Percent
