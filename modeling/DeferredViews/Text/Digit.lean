import DeferredViews.Text.CharSet

/-!
# Decimal digits

The Unicode decimal digits come in runs of ten, zero first; the table lists the zeros. A digit's
value is its distance from the zero of its run.
-/
namespace DeferredViews.Text

/-- The zero of every run of ten decimal digits, ascending. -/
def digitZeros : List Nat := [
  0x30, 0x660, 0x6f0, 0x7c0, 0x966, 0x9e6, 0xa66, 0xae6, 0xb66, 0xbe6, 0xc66, 0xce6,
  0xd66, 0xde6, 0xe50, 0xed0, 0xf20, 0x1040, 0x1090, 0x17e0, 0x1810, 0x1946, 0x19d0, 0x1a80,
  0x1a90, 0x1b50, 0x1bb0, 0x1c40, 0x1c50, 0xa620, 0xa8d0, 0xa900, 0xa9d0, 0xa9f0, 0xaa50, 0xabf0,
  0xff10, 0x104a0, 0x10d30, 0x11066, 0x110f0, 0x11136, 0x111d0, 0x112f0, 0x11450, 0x114d0, 0x11650, 0x116c0,
  0x11730, 0x118e0, 0x11950, 0x11c50, 0x11d50, 0x11da0, 0x16a60, 0x16ac0, 0x16b50, 0x1d7ce, 0x1d7d8, 0x1d7e2,
  0x1d7ec, 0x1d7f6, 0x1e140, 0x1e2f0, 0x1e950, 0x1fbf0]

/-- The value of a decimal digit of any script. -/
def digitValue? (c : Char) : Option Nat :=
  (digitZeros.find? fun z => z ≤ c.toNat && c.toNat < z + 10).map (c.toNat - ·)

def isDigit (c : Char) : Bool := (digitValue? c).isSome

/-- The number written by a run of digits in the given base, digits of any script included. -/
def readDigits (base : Nat) (value : Char → Nat) (s : List Char) : Nat :=
  s.foldl (fun n c => n * base + value c) 0

/-- The value of a hexadecimal digit, decimal digits of any script included. -/
def hexValue (c : Char) : Nat :=
  match digitValue? c with
  | some v => v
  | none =>
    if 'a' ≤ c ∧ c ≤ 'f' then c.toNat - 'a'.toNat + 10
    else if 'A' ≤ c ∧ c ≤ 'F' then c.toNat - 'A'.toNat + 10
    else 0

def isHexDigit (c : Char) : Bool :=
  ('0' ≤ c ∧ c ≤ '9') ∨ ('a' ≤ c ∧ c ≤ 'f') ∨ ('A' ≤ c ∧ c ≤ 'F')

/-- The digit character of a value below sixteen. -/
def hexDigit (n : Nat) : Char :=
  if n < 10 then Char.ofNat ('0'.toNat + n) else Char.ofNat ('a'.toNat + (n - 10))

/-- Lower-case hexadecimal digits of a number, most significant first, at least `width` of them. -/
def toHex (width n : Nat) : List Char :=
  go width n []
where
  go : Nat → Nat → List Char → List Char
    | 0, n, acc => if n = 0 then acc else tail n acc
    | w + 1, n, acc => go w (n / 16) (hexDigit (n % 16) :: acc)
  tail (n : Nat) (acc : List Char) : List Char :=
    if _h : n < 16 then hexDigit n :: acc else tail (n / 16) (hexDigit (n % 16) :: acc)
  termination_by n

/-- Decimal digits of a number. -/
def toDecimal (n : Nat) : List Char := Nat.toDigits 10 n

/-- Decimal digits of a number, padded with zeros on the left to `width`. -/
def padDecimal (width n : Nat) : List Char :=
  let ds := toDecimal n
  List.replicate (width - ds.length) '0' ++ ds

end DeferredViews.Text
