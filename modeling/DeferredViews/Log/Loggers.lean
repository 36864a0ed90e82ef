import DeferredViews.Log.Format

/-!
# Loggers

One handler serves the tree of loggers below a common root. Records of other loggers do not reach
it, nor do records below the level that was set up. Until logging is set up nothing is written.
-/
namespace DeferredViews.Log

/-- How logging was set up. -/
structure Handler where
  formatter : Formatter
  level : Int
  deriving DecidableEq, Repr

/-- The handler for flags of the command line: JSON for machines, else more or less for people. -/
def Handler.ofFlags (verbose quiet ci terminal : Bool) : Handler :=
  { formatter :=
      { style := if ci then .json else if verbose then .verbose else .human
        colors := terminal }
    level := if quiet then warningLevel else if verbose then debugLevel else infoLevel }

/-- Whether a logger belongs to the tree. -/
def inTree (logger : String) : Bool :=
  logger == rootLogger || (rootLogger ++ ".").toList.isPrefixOf logger.toList

/-- The level below which a handler's loggers are silent; level zero leaves the choice to the
level of all loggers, which lets warnings pass. -/
def Handler.threshold (h : Handler) : Int := if h.level = 0 then warningLevel else h.level

/-- Whether a record is written. Levels of zero and below never are. -/
def Handler.accepts (h : Handler) (r : Record) : Bool :=
  inTree r.logger && 0 < r.level && h.threshold ≤ r.level

/-- What a handler writes for a record: a line, or nothing if the message cannot be made. -/
def Handler.write (h : Handler) (time : Moment) (r : Record) : String :=
  if h.accepts r then
    match h.formatter.format time r with
    | .ok line => line ++ "\n"
    | .error _ => ""
  else ""

/-- What is written for a record; nothing until logging is set up. -/
def write (setup : Option Handler) (time : Moment) (r : Record) : String :=
  (setup.map (·.write time r)).getD ""

@[simp] theorem write_none (time : Moment) (r : Record) : write none time r = "" := rfl

/-- What a handler writes for several records. -/
def Handler.writeAll (h : Handler) (time : Moment) (rs : List Record) : String :=
  String.join (rs.map (h.write time))

/-- The lines of the records at or above a level, for people and without colours. -/
def plainLines (level : Int) (time : Moment) (rs : List Record) : List String :=
  (rs.filter fun r => inTree r.logger && level ≤ r.level).filterMap fun r =>
    ((⟨.human, false⟩ : Formatter).format time r).toOption

/-- A record with extra fields. The names of the other two arguments cannot be fields. -/
def structured (logger : String) (level : Int) (message : String) (extra : Locals) :
    Except Fault Record :=
  match extra.find? fun (k, _) => ["self", "level", "msg"].contains k with
  | some (k, _) =>
    .error (.type (.arguments ("structured() got multiple values for argument " ++
      Text.quoted k)))
  | none => .ok { logger, level, message, extra }

end DeferredViews.Log
