import DeferredViews.Value.Basic

/-!
# Log records

Whatever happens while views are rendered is noted in records, each from a logger and with a level
that says how much it matters.
-/
namespace DeferredViews.Log

/-- An exception that a record tells about: its class and its text. -/
structure Trouble where
  kind : String
  message : String
  deriving DecidableEq, Repr

structure Record where
  logger : String
  level : Int
  /-- The message, a format if there are arguments. -/
  message : String
  args : List Value := []
  extra : Locals := []
  trouble : Option Trouble := none

/-- The root of the logger tree. -/
def rootLogger : String := "jinjaview"

/-- The logger of renders and of the registration of partials. -/
def engineLogger : String := rootLogger ++ ".engine"

def cacheLogger : String := rootLogger ++ ".cache"
def layoutLogger : String := rootLogger ++ ".layouts"
def helperLogger : String := rootLogger ++ ".asynchelpers"

def debugLevel : Int := 10
def infoLevel : Int := 20
def warningLevel : Int := 30
def errorLevel : Int := 40
def criticalLevel : Int := 50

def debug (logger message : String) : Record := { logger, level := debugLevel, message }

def info (logger message : String) : Record := { logger, level := infoLevel, message }

def warning (logger message : String) : Record := { logger, level := warningLevel, message }

def error (logger message : String) : Record := { logger, level := errorLevel, message }

end DeferredViews.Log
