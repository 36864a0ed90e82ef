/-!
# Double precision numbers

A double is kept as its 64 bits, so that equality of representations is decidable. Its shape is a
sign, a mantissa and a power of two; exact questions (order against integers, remainders, nearest
double of a fraction) are answered on shapes in natural-number arithmetic.
-/
namespace DeferredViews.Number

structure Double where
  bits : UInt64
  deriving DecidableEq, Repr

/-- What the bits stand for; a finite number is `mantissa · 2 ^ exponent`, negated if asked. -/
inductive Shape where
  | nan
  | infinite (negative : Bool)
  | finite (negative : Bool) (mantissa : Nat) (exponent : Int)
  deriving DecidableEq, Repr

namespace Double

def ofFloat (x : Float) : Double := ⟨x.toBits⟩

def toFloat (x : Double) : Float := Float.ofBits x.bits

def isNegative (x : Double) : Bool := Nat.pow 2 63 ≤ x.bits.toNat

def shape (x : Double) : Shape :=
  let fraction : Nat := x.bits.toNat % Nat.pow 2 52
  let power : Nat := x.bits.toNat / Nat.pow 2 52 % Nat.pow 2 11
  if power = 2047 then
    if fraction = 0 then .infinite x.isNegative else .nan
  else if power = 0 then .finite x.isNegative fraction (-1074)
  else .finite x.isNegative (Nat.pow 2 52 + fraction) ((power : Int) - 1075)

/-- The bits of a sign with the given lower 63 bits. -/
def withSign (negative : Bool) (rest : Nat) : Double :=
  ⟨UInt64.ofNat (if negative then Nat.pow 2 63 + rest else rest)⟩

def zero : Double := withSign false 0

def infinity (negative : Bool) : Double := withSign negative (2047 * Nat.pow 2 52)

/-- Not a number. -/
def undetermined : Double := withSign false (2047 * Nat.pow 2 52 + Nat.pow 2 51)

def isNaN (x : Double) : Bool := x.shape == .nan

def isFinite (x : Double) : Bool :=
  match x.shape with
  | .finite .. => true
  | _ => false

def negate (x : Double) : Double := withSign (!x.isNegative) (x.bits.toNat % Nat.pow 2 63)

/-- The quotient rounded to the nearest integer, a tie to the even one. -/
def roundDiv (num den : Nat) : Nat :=
  let q := num / den
  let r := num % den
  if 2 * r < den then q
  else if den < 2 * r then q + 1
  else if q % 2 = 0 then q else q + 1

/-- `num / den` over `2 ^ e`, as a fraction of naturals. -/
def scaled (num den : Nat) (e : Int) : Nat × Nat :=
  if 0 ≤ e then (num, den * Nat.pow 2 e.toNat) else (num * Nat.pow 2 (-e).toNat, den)

/-- The power of two at which a fraction has a 53 bit mantissa, never below the least power. -/
def mantissaPower (num den : Nat) : Int :=
  let guess : Int := (Nat.log2 num : Int) - Nat.log2 den - 53
  let (n, d) := scaled num den guess
  max (-1074) (if Nat.pow 2 53 * d ≤ n then guess + 1 else guess)

/-- The double nearest to `num / den`, a tie going to the even mantissa; beyond the largest
double it is infinite. -/
def ofRatio (negative : Bool) (num den : Nat) : Double :=
  if num = 0 then withSign negative 0
  else
    let e := mantissaPower num den
    let (n, d) := scaled num den e
    let q := roundDiv n d
    let (q, e) := if q = Nat.pow 2 53 then (Nat.pow 2 52, e + 1) else (q, e)
    if 971 < e then infinity negative
    else if q < Nat.pow 2 52 then withSign negative q
    else withSign negative ((e + 1075).toNat * Nat.pow 2 52 + (q - Nat.pow 2 52))

/-- The double nearest to an integer. -/
def ofInt (n : Int) : Double := ofRatio (n < 0) n.natAbs 1

/-- The double nearest to a decimal `coefficient · 10 ^ exponent`. -/
def ofDecimal (negative : Bool) (coefficient : Nat) (exponent : Int) : Double :=
  let size : Int := (Nat.toDigits 10 coefficient).length + exponent
  if coefficient = 0 ∨ size < -330 then withSign negative 0
  else if 310 < size then infinity negative
  else if 0 ≤ exponent then ofRatio negative (coefficient * Nat.pow 10 exponent.toNat) 1
  else ofRatio negative coefficient (Nat.pow 10 (-exponent).toNat)

/-- A finite double as a signed numerator over a denominator. -/
def ratio? (x : Double) : Option (Int × Nat) :=
  match x.shape with
  | .finite negative m e =>
    let (n, d) := if 0 ≤ e then (m * Nat.pow 2 e.toNat, 1) else (m, Nat.pow 2 (-e).toNat)
    some (if negative then -n else n, d)
  | _ => none

/-- The integer that a finite double equals, if it is one. -/
def toInt? (x : Double) : Option Int :=
  match x.ratio? with
  | some (n, d) => if n % d = 0 then some (n / d) else none
  | none => none

/-- The order of a double against an integer; a double that is not a number has none. -/
def compareInt (x : Double) (n : Int) : Option Ordering :=
  match x.shape with
  | .nan => none
  | .infinite negative => some (if negative then .lt else .gt)
  | .finite .. => x.ratio?.map fun (p, d) => compare p (n * d)

def compareTo (x y : Double) : Option Ordering :=
  match x.ratio?, y.ratio? with
  | some (p, d), some (q, f) => some (compare (p * f) (q * d))
  | none, some (q, f) => if f = 0 then none else x.compareInt q
  | some _, none => (y.compareInt 0).map Ordering.swap
  | none, none => if x.isNaN || y.isNaN then none else some (compare y.isNegative x.isNegative)

def add (x y : Double) : Double := ofFloat (x.toFloat + y.toFloat)
def sub (x y : Double) : Double := ofFloat (x.toFloat - y.toFloat)
def mul (x y : Double) : Double := ofFloat (x.toFloat * y.toFloat)
def div (x y : Double) : Double := ofFloat (x.toFloat / y.toFloat)
def pow (x y : Double) : Double := ofFloat (x.toFloat ^ y.toFloat)
def floor (x : Double) : Double := ofFloat x.toFloat.floor

def isZero (x : Double) : Bool := x.bits.toNat % Nat.pow 2 63 == 0

/-- The remainder of a division truncated toward zero; it has the sign of the dividend. -/
def remainder (x y : Double) : Double :=
  match x.shape, y.shape with
  | .finite nx mx ex, .finite _ my ey =>
    if my = 0 then undetermined
    else
      let e := min ex ey
      let r := (mx * Nat.pow 2 (ex - e).toNat) % (my * Nat.pow 2 (ey - e).toNat)
      if 0 ≤ e then ofRatio nx (r * Nat.pow 2 e.toNat) 1 else ofRatio nx r (Nat.pow 2 (-e).toNat)
  | .finite .., .infinite _ => x
  | _, _ => undetermined

/-- Floored division of doubles: the quotient's floor, and a remainder with the divisor's sign. -/
def divMod (x y : Double) : Double × Double :=
  let r := x.remainder y
  let q := (x.sub r).div y
  let (r, q) :=
    if r.isZero then (withSign y.isNegative 0, q)
    else if r.isNegative != y.isNegative then (r.add y, q.sub (ofInt 1)) else (r, q)
  let q :=
    if q.isZero then withSign (x.div y).isNegative 0
    else
      let whole := q.floor
      if (0.5 : Float) < (q.sub whole).toFloat then whole.add (ofInt 1) else whole
  (q, r)

end Double
end DeferredViews.Number
