import DeferredViews.Value.Basic

/-!
# The calendar

Days are counted from 1970-01-01 in the Gregorian calendar. The date of a day is found by counting in
eras of 400 years, which all have the same number of days.
-/
namespace DeferredViews

open Number

def isLeapYear (year : Nat) : Bool := year % 4 = 0 && (year % 100 ≠ 0 || year % 400 = 0)

def daysInMonth (year month : Nat) : Nat :=
  if month = 2 then (if isLeapYear year then 29 else 28)
  else if month = 4 ∨ month = 6 ∨ month = 9 ∨ month = 11 then 30
  else 31

/-- Whether a date exists, in the years 1 to 9999. -/
def Day.isValid (d : Day) : Bool :=
  1 ≤ d.year && d.year ≤ 9999 && 1 ≤ d.month && d.month ≤ 12 && 1 ≤ d.day &&
    d.day ≤ daysInMonth d.year d.month

/-- The date of a day counted from 1970-01-01. Years are counted from March, so that a leap day
ends its year. -/
def Day.ofCount (n : Int) : Day :=
  let z := n + 719468
  let era := Int.fdiv z 146097
  let dayOfEra := (z - era * 146097).toNat
  let yearOfEra := (dayOfEra - dayOfEra / 1460 + dayOfEra / 36524 - dayOfEra / 146096) / 365
  let dayOfYear := dayOfEra - (365 * yearOfEra + yearOfEra / 4 - yearOfEra / 100)
  let shifted := (5 * dayOfYear + 2) / 153
  let month := if shifted < 10 then shifted + 3 else shifted - 9
  let year := (era * 400 + yearOfEra).toNat + (if month ≤ 2 then 1 else 0)
  ⟨year, month, dayOfYear - (153 * shifted + 2) / 5 + 1⟩

/-- The moment that lies some seconds and microseconds after the start of 1970, in UTC. -/
def Moment.ofSeconds (seconds : Int) (micro : Nat) : Moment :=
  let days := Int.fdiv seconds 86400
  let rest := (seconds - days * 86400).toNat
  { day := .ofCount days
    hour := rest / 3600
    minute := rest / 60 % 60
    second := rest % 60
    micro
    zone := some 0 }

/-- The moment that a number of seconds means, rounded to microseconds, a tie to the even one. -/
def Moment.ofDouble (x : Double) : Moment :=
  match x.ratio? with
  | none => .ofSeconds 0 0
  | some (n, d) =>
    let whole := Int.tdiv n d
    let fraction := Double.ofRatio (n < 0) (n.natAbs % d) d
    match (fraction.mul (Double.ofInt 1000000)).ratio? with
    | none => .ofSeconds whole 0
    | some (p, q) =>
      let micro : Int := Double.roundDiv p.natAbs q
      let total := whole * 1000000 + (if p < 0 then -micro else micro)
      .ofSeconds (Int.fdiv total 1000000) (Int.fmod total 1000000).toNat

end DeferredViews
