import DeferredViews.Number.Shortest

/-!
# Decimals with a given number of places

A number is written with a fixed count of places after the point, or of significant digits, by
rounding its exact value to the nearest such decimal, a tie going to the even digit.
-/
namespace DeferredViews.Number

/-- Digits before and after a point; the point alone is written only when it is wanted. -/
def joinAtPoint (point : Bool) (whole fraction : List Char) : List Char :=
  if fraction = [] ∧ point = false then whole else whole ++ '.' :: fraction

@[simp] theorem joinAtPoint_nil (whole : List Char) : joinAtPoint false whole [] = whole := rfl

/-- The digits of `num / den` rounded to `places` places after the point. -/
def fixedText (point : Bool) (places num den : Nat) : List Char :=
  let n := Double.roundDiv (num * Nat.pow 10 places) den
  let digits := Nat.toDigits 10 n
  let digits := List.replicate (places + 1 - digits.length) '0' ++ digits
  joinAtPoint point (digits.take (digits.length - places)) (digits.drop (digits.length - places))

/-- The power of ten of the first digit of a positive fraction. -/
def leadingPower (num den : Nat) : Int :=
  if den ≤ num then (Nat.toDigits 10 (num / den)).length - 1
  else -(leadingPlace 400 num den : Int)

/-- `significant` digits of a fraction, and the power of ten of the first of them. -/
def significantDigits (significant num den : Nat) : List Char × Int :=
  if num = 0 then (List.replicate significant '0', 0)
  else
    let power := leadingPower num den
    let shift : Int := significant - 1 - power
    let n := Double.roundDiv (num * Nat.pow 10 shift.toNat) (den * Nat.pow 10 (-shift).toNat)
    let digits := Nat.toDigits 10 n
    if digits.length = significant then (digits, power) else (digits.take significant, power + 1)

def exponentText (mark : Char) (power : Int) : List Char :=
  let digits := Nat.toDigits 10 power.natAbs
  mark :: (if power < 0 then '-' else '+') ::
    List.replicate (floatStyle.exponentDigits - digits.length) '0' ++ digits

/-- A digit, a point, `places` more digits and an exponent. -/
def scientificText (point : Bool) (mark : Char) (places num den : Nat) : List Char :=
  let (digits, power) := significantDigits (places + 1) num den
  joinAtPoint point (digits.take 1) (digits.drop 1) ++ exponentText mark power

/-- Drop trailing zeros after the point, and the point if nothing is left behind it. -/
def dropTrailingZeros (s : List Char) : List Char :=
  if '.' ∈ s then
    let kept := (s.reverse.dropWhile (· == '0')).reverse
    if kept.getLast? = some '.' then kept.dropLast else kept
  else s

/-- `significant` digits, with an exponent if the number is very small or has more digits before
the point than that. Trailing zeros are dropped unless the point is to be kept. -/
def generalText (point : Bool) (mark : Char) (significant num den : Nat) : List Char :=
  let significant := max 1 significant
  let (digits, power) := significantDigits significant num den
  let trim := if point then id else dropTrailingZeros
  if power < floatStyle.positionalFrom ∨ (significant : Int) ≤ power then
    trim (joinAtPoint point (digits.take 1) (digits.drop 1)) ++ exponentText mark power
  else trim (fixedText point (significant - 1 - power).toNat num den)

end DeferredViews.Number
