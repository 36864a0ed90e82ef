import DeferredViews.Number.Double

/-!
# The shortest decimal of a double

Of all decimals that read back as the double, the written one has the fewest digits, and among
those it is the nearest. For each number of digits only the two decimals next to the double need
be tried: if any decimal of that length reads back, one of its two neighbours does.
-/
namespace DeferredViews.Number

/-- A decimal `coefficient · 10 ^ exponent`. -/
structure Decimal where
  coefficient : Nat
  exponent : Int
  deriving DecidableEq, Repr

/-- The reals that round to `mantissa · 2 ^ exponent`: with the unit `2 ^ (exponent - 2)`, the
number itself, the two ends, and whether the ends belong to it. -/
structure Basin where
  unit : Int
  centre : Nat
  low : Nat
  high : Nat
  closed : Bool

def Basin.of (mantissa : Nat) (exponent : Int) : Basin :=
  { unit := exponent - 2
    centre := 4 * mantissa
    low := 4 * mantissa - (if mantissa = Nat.pow 2 52 ∧ -1074 < exponent then 1 else 2)
    high := 4 * mantissa + 2
    closed := mantissa % 2 = 0 }

/-- The two factors that make `c · 10 ^ k` and `n · 2 ^ unit` comparable as naturals. -/
def Basin.factors (b : Basin) (k : Int) : Nat × Nat :=
  (Nat.pow 10 k.toNat * Nat.pow 2 (-b.unit).toNat, Nat.pow 2 b.unit.toNat * Nat.pow 10 (-k).toNat)

def Basin.holds (b : Basin) (k : Int) (c : Nat) : Bool :=
  let (f, g) := b.factors k
  if b.closed then b.low * g ≤ c * f && c * f ≤ b.high * g
  else b.low * g < c * f && c * f < b.high * g

/-- The coefficient at `10 ^ k` that reads back, the nearer of the two neighbours if both do. -/
def Basin.at? (b : Basin) (k : Int) : Option Nat :=
  let (f, g) := b.factors k
  let c := b.centre * g / f
  let below := b.centre * g - c * f
  match b.holds k c, b.holds k (c + 1) with
  | true, true =>
    if 2 * below < f then some c
    else if f < 2 * below then some (c + 1)
    else if c % 2 = 0 then some c else some (c + 1)
  | true, false => some c
  | false, true => some (c + 1)
  | false, false => none

/-- How many places after the point a fraction below one has before its first digit. -/
def leadingPlace : Nat → Nat → Nat → Nat
  | 0, _, _ => 0
  | fuel + 1, num, den => if den ≤ num then 0 else 1 + leadingPlace fuel (num * 10) den

/-- The power of ten of the first digit of `mantissa · 2 ^ exponent`. -/
def firstPlace (mantissa : Nat) (exponent : Int) : Int :=
  let num := mantissa * Nat.pow 2 exponent.toNat
  let den := Nat.pow 2 (-exponent).toNat
  if den ≤ num then (Nat.toDigits 10 (num / den)).length - 1
  else -(leadingPlace 400 num den : Int)

/-- Write a decimal without trailing zeros in its coefficient. -/
def Decimal.strip : Nat → Decimal → Decimal
  | 0, d => d
  | fuel + 1, d =>
    if d.coefficient ≠ 0 ∧ d.coefficient % 10 = 0 then
      Decimal.strip fuel ⟨d.coefficient / 10, d.exponent + 1⟩
    else d

/-- The shortest decimal that reads back as `mantissa · 2 ^ exponent`. -/
def shortest (mantissa : Nat) (exponent : Int) : Decimal :=
  if mantissa = 0 then ⟨0, 0⟩
  else
    let b := Basin.of mantissa exponent
    let first := firstPlace mantissa exponent
    let grid (n : Nat) : Option Decimal :=
      let place : Int := first - n
      (b.at? place).map fun c => ⟨c, place⟩
    match (List.range 17).findSome? grid with
    | some d => d.strip 20
    | none => ⟨mantissa * Nat.pow 2 exponent.toNat, 0⟩

/-- Which numbers are written with a plain point and how the exponent of the others looks. -/
structure FloatStyle where
  positionalFrom : Int
  positionalBelow : Int
  exponentDigits : Nat

/-- Plain from `0.0001` up to sixteen digits before the point; two exponent digits at least. -/
def floatStyle : FloatStyle := ⟨-4, 16, 2⟩

/-- The text of a positive decimal in the given style. -/
def Decimal.text (style : FloatStyle) (d : Decimal) : List Char :=
  let digits := Nat.toDigits 10 d.coefficient
  let place : Int := digits.length - 1 + d.exponent
  if style.positionalFrom ≤ place ∧ place < style.positionalBelow then
    if 0 ≤ d.exponent then digits ++ List.replicate d.exponent.toNat '0' ++ ['.', '0']
    else if 0 ≤ place then
      let whole := (place + 1).toNat
      digits.take whole ++ '.' :: digits.drop whole
    else '0' :: '.' :: List.replicate (-place - 1).toNat '0' ++ digits
  else
    let head := match digits with
      | [] => []
      | [c] => [c]
      | c :: more => c :: '.' :: more
    let power := Nat.toDigits 10 place.natAbs
    head ++ 'e' :: (if place < 0 then '-' else '+') ::
      List.replicate (style.exponentDigits - power.length) '0' ++ power

/-- The text of a double. -/
def Double.text (x : Double) : String :=
  match x.shape with
  | .nan => "nan"
  | .infinite negative => if negative then "-inf" else "inf"
  | .finite negative m e =>
    String.ofList ((if negative then ['-'] else []) ++ (shortest m e).text floatStyle)

end DeferredViews.Number
