import DeferredViews.Json.Writer
import DeferredViews.Log.Record
import DeferredViews.Value.Calendar
import DeferredViews.Value.Percent

/-!
# Writing log records

A record is written for people, with its level and possibly the time and the logger, or as one
JSON object on a line. Levels may be coloured. An exception follows the message.
-/
namespace DeferredViews.Log

open Text

inductive Style where
  | human
  | verbose
  | json
  deriving DecidableEq, Repr

structure Formatter where
  style : Style
  colors : Bool
  deriving DecidableEq, Repr

def levelName (level : Int) : String :=
  if level = 0 then "NOTSET"
  else if level = debugLevel then "DEBUG"
  else if level = infoLevel then "INFO"
  else if level = warningLevel then "WARNING"
  else if level = errorLevel then "ERROR"
  else if level = criticalLevel then "CRITICAL"
  else "Level " ++ toString level

def resetColor : String := "\x1b[0m"

def levelColor (level : Int) : String :=
  if level = debugLevel then "\x1b[90m"
  else if level = infoLevel then "\x1b[32m"
  else if level = warningLevel then "\x1b[33m"
  else if level = errorLevel ∨ level = criticalLevel then "\x1b[31m"
  else resetColor

/-- The level between brackets. -/
def levelMark (colors : Bool) (level : Int) : String :=
  let mark := "[" ++ levelName level ++ "]"
  if colors then levelColor level ++ mark ++ resetColor else mark

/-- The message with its arguments filled in. A single mapping that is not empty is looked into by
name. -/
def Record.text (r : Record) : Except Fault String :=
  match r.args with
  | [] => .ok r.message
  | [.dict (e :: es)] => Value.Percent.format Value.text Value.shown r.message (.dict (e :: es))
  | args => Value.Percent.format Value.text Value.shown r.message (.tuple args)

/-- The text of an exception without a trace. -/
def Trouble.text (t : Trouble) : String :=
  if t.message.isEmpty then t.kind else t.kind ++ ": " ++ t.message

/-- The exception of a record on a line of its own. -/
def troubleLine (r : Record) : String := (r.trouble.map fun t => "\n" ++ t.text).getD ""

/-- The time of day. -/
def clockText (m : Moment) : String :=
  twoDigits m.hour ++ ":" ++ twoDigits m.minute ++ ":" ++ twoDigits m.second

/-- The fields of a record as an object: the core fields, then the extra ones, which may replace
them, then the exception. -/
def Record.fields (r : Record) (time : Moment) (message : String) : Locals :=
  let core : Locals :=
    [("level", .str (levelName r.level)), ("ts", .str (time.text "T")),
      ("logger", .str r.logger), ("msg", .str message)]
  let fields := core.update r.extra
  match r.trouble with
  | none => fields
  | some t => fields.set "exc" (.str t.text)

/-- A mapping value with the given fields. -/
def objectOf (fields : Locals) : Value := .dict (fields.map fun (k, v) => (.str k, v))

/-- Write a record that was made at the given time. -/
def Formatter.format (f : Formatter) (time : Moment) (r : Record) : Except Fault String := do
  let message ← r.text
  match f.style with
  | .human => .ok (levelMark f.colors r.level ++ " " ++ message ++ troubleLine r)
  | .verbose =>
    .ok (levelMark f.colors r.level ++ "[" ++ clockText time ++ "] " ++ r.logger ++ ": " ++
      message ++ troubleLine r)
  | .json => .ok (Json.write (objectOf (r.fields time message)))

end DeferredViews.Log
