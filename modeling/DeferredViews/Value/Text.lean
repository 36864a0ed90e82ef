import DeferredViews.Text.Digit
import DeferredViews.Text.Quoted
import DeferredViews.Value.Basic

/-!
# The text of a value

A value has a plain text, which printing uses, and a source-like form, which shows texts in quotes
and is used for whatever stands inside a list or mapping.
-/
namespace DeferredViews

open Text Number

/-- Two digits. -/
def twoDigits (n : Nat) : String := String.ofList (padDecimal 2 n)

def Day.text (d : Day) : String :=
  String.ofList (padDecimal 4 d.year) ++ "-" ++ twoDigits d.month ++ "-" ++ twoDigits d.day

/-- A time zone as `+hh:mm`. -/
def zoneText (minutes : Int) : String :=
  (if minutes < 0 then "-" else "+") ++ twoDigits (minutes.natAbs / 60) ++ ":" ++
    twoDigits (minutes.natAbs % 60)

/-- Day and time, with the fraction left out when it is zero. -/
def Moment.text (separator : String) (m : Moment) : String :=
  m.day.text ++ separator ++ twoDigits m.hour ++ ":" ++ twoDigits m.minute ++ ":" ++
    twoDigits m.second ++
    (if m.micro = 0 then "" else "." ++ String.ofList (padDecimal 6 m.micro)) ++
    (match m.zone with
      | none => ""
      | some z => zoneText z)

def Day.shown (d : Day) : String :=
  "datetime.date(" ++ toString d.year ++ ", " ++ toString d.month ++ ", " ++ toString d.day ++ ")"

def Moment.shown (m : Moment) : String :=
  let parts := [m.day.year, m.day.month, m.day.day, m.hour, m.minute] ++
    (if m.second = 0 ∧ m.micro = 0 then [] else [m.second]) ++
    (if m.micro = 0 then [] else [m.micro])
  "datetime.datetime(" ++ String.intercalate ", " (parts.map toString) ++
    (match m.zone with
      | none => ""
      | some 0 => ", tzinfo=datetime.timezone.utc"
      | some z =>
        let seconds := z * 60
        let (days, rest) := (Int.fdiv seconds 86400, Int.fmod seconds 86400)
        ", tzinfo=datetime.timezone(datetime.timedelta(" ++
          (if days = 0 then "" else "days=" ++ toString days ++ ", ") ++
          "seconds=" ++ toString rest ++ "))") ++ ")"

namespace Value

mutual

/-- The source-like form of a value. -/
def shown : Value → String
  | null => "None"
  | bool b => if b then "True" else "False"
  | int n => toString n
  | float x => x.text
  | str s => quoted s
  | markup s => "Markup(" ++ quoted s ++ ")"
  | list items => "[" ++ String.intercalate ", " (shownList items) ++ "]"
  | tuple items =>
    match items with
    | [] => "()"
    | [x] => "(" ++ shown x ++ ",)"
    | x :: more => "(" ++ String.intercalate ", " (shown x :: shownList more) ++ ")"
  | dict entries => "\x7b" ++ String.intercalate ", " (shownEntries entries) ++ "\x7d"
  | day d => d.shown
  | moment m => m.shown
  | function _ => "<function>"
  | method _ name => "<built-in method " ++ name ++ ">"
  | view name items => name ++ "([" ++ String.intercalate ", " (shownList items) ++ "])"
  | loop index length => "<LoopContext " ++ toString (index + 1) ++ "/" ++ toString length ++ ">"
  | slice a b c => "slice(" ++ shown a ++ ", " ++ shown b ++ ", " ++ shown c ++ ")"
  | absent _ => "Undefined"

def shownList : List Value → List String
  | [] => []
  | v :: more => shown v :: shownList more

def shownEntries : List (Value × Value) → List String
  | [] => []
  | (k, v) :: more => (shown k ++ ": " ++ shown v) :: shownEntries more

end

/-- The plain text of a value: texts as they are, absent values empty, all else as shown. -/
def text : Value → String
  | str s => s
  | markup s => s
  | absent _ => ""
  | day d => d.text
  | moment m => m.text " "
  | v => v.shown

@[simp] theorem text_str (s : String) : (str s).text = s := rfl

@[simp] theorem text_markup (s : String) : (markup s).text = s := rfl

@[simp] theorem text_absent (why : Missing) : (absent why).text = "" := rfl

end Value
end DeferredViews
