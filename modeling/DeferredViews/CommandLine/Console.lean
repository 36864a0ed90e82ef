import DeferredViews.Log.Loggers
import DeferredViews.View.Partials

/-!
# What a command does

A command works on a site with one engine, prints text and ends, unless a fault that no command
deals with escapes. Printed text goes to a file or a pipe and so loses the sequences that steer a
terminal.
-/
namespace DeferredViews.CommandLine

open View

/-- What follows a steering sequence after its opening: parameters and a letter. -/
def dropSteering? (s : List Char) : Option (List Char) :=
  match s.dropWhile fun c => c = ';' || c = '?' || ('0' ≤ c && c ≤ '9') with
  | c :: rest => if c.isAlpha then some rest else none
  | [] => none

/-- A text without the sequences that steer a terminal. -/
def withoutSteering : Nat → List Char → List Char
  | 0, s => s
  | fuel + 1, '\x1b' :: '[' :: rest =>
    match dropSteering? rest with
    | some rest => withoutSteering fuel rest
    | none => '\x1b' :: withoutSteering fuel ('[' :: rest)
  | fuel + 1, c :: rest => c :: withoutSteering fuel rest
  | _, [] => []

/-- The text that printing a text prints. -/
def printed (s : String) : String := String.ofList (withoutSteering (s.length + 1) s.toList)

/-- How a command ends before its time. -/
inductive Halt where
  | exit (status : Nat)
  | fault (f : Fault)
  deriving DecidableEq, Repr

/-- The site of a command, and what it has printed. -/
structure Console where
  site : Site
  out : String := ""

abbrev Run := ExceptT Halt (StateM Console)

namespace Run

def note (r : Log.Record) : Run Unit := modify fun c => { c with site := c.site.note r }

def rootInfo (m : String) : Run Unit := note (Log.info Log.rootLogger m)

/-- Report an error and end. -/
def fail {α : Type} (m : String) : Run α := do
  note (Log.error Log.rootLogger m)
  throw (.exit 1)

def print (s : String) : Run Unit := modify fun c => { c with out := c.out ++ printed s }

def printLine (s : String) : Run Unit := print (s ++ "\n")

/-- A result whose fault no command deals with. -/
def orEscape {α : Type} : Except Fault α → Run α
  | .ok a => pure a
  | .error f => throw (.fault f)

def orEscapeFile {α : Type} : Except Files.FileError α → Run α
  | .ok a => pure a
  | .error e => throw (.fault (.unreadable (.file e)))

/-- Work on the site; its failures are reported. -/
def work {α : Type} (x : Work α) : Run α := do
  let c ← get
  let (result, site) := x.run c.site
  set { c with site }
  match result with
  | .ok a => return a
  | .error (.failure f) => fail f.message
  | .error (.interrupt (.fault f)) => throw (.fault f)
  | .error (.interrupt (.cancelled _)) => throw (.exit 1)

end Run

/-- Whether a fault says that given data cannot be used, which commands report. -/
def isDataFault : Fault → Bool
  | .value _ | .malformed _ | .unreadable (.decode _) | .raised .value _ => true
  | _ => false

end DeferredViews.CommandLine
