import DeferredViews.Fault
import DeferredViews.Text.Digit
import DeferredViews.Value.Calendar

/-!
# Days and times in plain scalars

A day is year, month and day with hyphens between them. A time may follow after a letter or
blanks, with a fraction of a second and a distance from UTC.
-/
namespace DeferredViews.Yaml

open Text

/-- A time of day as it is written. The distance from UTC is in minutes. -/
structure Clock where
  hour : Nat
  minute : Nat
  second : Nat
  fraction : List Char
  zone : Option Int

structure Stamp where
  year : Nat
  /-- Month and day may have one digit only if a time follows. -/
  month : List Char
  day : List Char
  clock : Option Clock

def number (s : List Char) : Nat := readDigits 10 hexValue s

/-- Read between `least` and `most` digits, as many as there are. -/
def readSome (least most : Nat) (s : List Char) : Option (List Char × List Char) :=
  let digits := (s.takeWhile Char.isDigit).take most
  if digits.length < least then none else some (digits, s.drop digits.length)

def expect (c : Char) : List Char → Option (List Char)
  | d :: s => if d = c then some s else none
  | [] => none

/-- The distance from UTC after its sign. -/
def readOffset (s : List Char) : Option (Int × List Char) := do
  let (hours, s) ← readSome 1 2 s
  match s with
  | ':' :: more =>
    let (minutes, s) ← readSome 2 2 more
    some (number hours * 60 + number minutes, s)
  | s => some (number hours * 60, s)

/-- The distance from UTC up to the end of the text, if one is given. -/
def readZone (s : List Char) : Option (Option Int) :=
  let whole (o : Option (Int × List Char)) (sign : Int) : Option (Option Int) :=
    match o with
    | some (n, []) => some (some (sign * n))
    | _ => none
  match s, s.dropWhile fun c => c = ' ' || c = '\t' with
  | [], _ => some none
  | _, ['Z'] => some (some 0)
  | _, '+' :: more => whole (readOffset more) 1
  | _, '-' :: more => whole (readOffset more) (-1)
  | _, _ => none

def readClock (s : List Char) : Option Clock := do
  let (hour, s) ← readSome 1 2 s
  let (minute, s) ← readSome 2 2 (← expect ':' s)
  let (second, s) ← readSome 2 2 (← expect ':' s)
  let (fraction, s) : List Char × List Char :=
    match s with
    | '.' :: more => (more.takeWhile Char.isDigit, more.dropWhile Char.isDigit)
    | s => ([], s)
  let zone ← readZone s
  some ⟨number hour, number minute, number second, fraction, zone⟩

/-- What stands between a day and a time is gone over. -/
def dropSeparator : List Char → Option (List Char)
  | 'T' :: s | 't' :: s => some s
  | ' ' :: s | '\t' :: s => some (s.dropWhile fun c => c = ' ' || c = '\t')
  | _ => none

/-- Read a day with or without a time. -/
def readStamp (s : List Char) : Option Stamp := do
  let (year, s) ← readSome 4 4 s
  let (month, s) ← readSome 1 2 (← expect '-' s)
  let (day, s) ← readSome 1 2 (← expect '-' s)
  match s with
  | [] => some ⟨number year, month, day, none⟩
  | s => some ⟨number year, month, day, some (← readClock (← dropSeparator s))⟩

/-- Whether a plain text is a day or a time: without a time, month and day have two digits. -/
def isStamp (s : List Char) : Bool :=
  match readStamp s with
  | some t => t.clock.isSome || (t.month.length = 2 && t.day.length = 2)
  | none => false

/-- The microseconds that the digits of a fraction mean; digits beyond the sixth are dropped. -/
def microseconds (fraction : List Char) : Nat :=
  number (fraction.take 6) * Nat.pow 10 (6 - (fraction.take 6).length)

def checkDay (d : Day) : Except Fault Unit :=
  if d.year = 0 then .error (.value "year 0 is out of range")
  else if d.month = 0 ∨ 12 < d.month then .error (.value "month must be in 1..12")
  else if d.isValid then .ok ()
  else .error (.value "day is out of range for month")

/-- How a message writes a distance from UTC. -/
def offsetText (minutes : Int) : String :=
  let days := Int.fdiv minutes 1440
  let seconds := Int.fmod minutes 1440 * 60
  "datetime.timedelta(days=" ++ toString days ++
    (if seconds = 0 then "" else ", seconds=" ++ toString seconds) ++ ")"

/-- Distances from UTC are less than a day. -/
def checkZone : Option Int → Except Fault Unit
  | none => .ok ()
  | some z =>
    if z.natAbs < 1440 then .ok ()
    else
      .error (.value ("offset must be a timedelta strictly between -timedelta(hours=24) and " ++
        "timedelta(hours=24), not " ++ offsetText z ++ "."))

def checkClock (c : Clock) : Except Fault Unit :=
  if 23 < c.hour then .error (.value "hour must be in 0..23")
  else if 59 < c.minute then .error (.value "minute must be in 0..59")
  else if 59 < c.second then .error (.value "second must be in 0..59")
  else .ok ()

/-- The day or time that was read, if the calendar has it. -/
def Stamp.value (t : Stamp) : Except Fault Value := do
  let day : Day := ⟨t.year, number t.month, number t.day⟩
  match t.clock with
  | none => do
    checkDay day
    .ok (.day day)
  | some c => do
    checkZone c.zone
    checkDay day
    checkClock c
    .ok (.moment ⟨day, c.hour, c.minute, c.second, microseconds c.fraction, c.zone⟩)

end DeferredViews.Yaml
