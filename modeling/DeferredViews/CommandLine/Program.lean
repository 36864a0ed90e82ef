import DeferredViews.CommandLine.Commands

/-!
# The program

A run of the program takes the files, the environment and an argument list, and comes to an
outcome: a status, the text printed, the records logged, and the files as they are then. How
records are written is settled by the options for all commands and changes nothing else.
-/
namespace DeferredViews.CommandLine

open Files View Run

def versionText : String := "jinjaview 0.1.0"

/-- The status of a run whose arguments make no sense. -/
def usageStatus : Nat := 2

/-- The status of a run that failed. -/
def failureStatus : Nat := 1

structure Outcome where
  status : Nat
  out : String := ""
  log : List Log.Record := []
  flags : Flags := {}
  /-- The fault that ended the run if no command dealt with it. -/
  escaped : Option Fault := none
  files : Tree

/-- Load the configuration; what is wrong with its data is reported. -/
def loadConfiguration (env : List (String × String)) (flags : Flags) :
    Run Config.Settings := do
  match Config.load (← get).site.files env flags.config true with
  | .ok loaded => do
    match loaded.path with
    | some p => note (Log.debug Log.rootLogger ("Loaded config from: " ++ p.text))
    | none => pure ()
    return loaded.settings
  | .error (.noConfiguration p) => fail (Fault.noConfiguration p).message
  | .error f =>
    if isDataFault f then fail ("Failed to load config: " ++ f.message) else throw (.fault f)

/-- Load the configuration, then read the arguments of the command, then run it. -/
def runCommand (env : List (String × String)) (flags : Flags) (name : CommandName)
    (arguments : List String) : Run Unit := do
  let settings ← loadConfiguration env flags
  match Command.ofArguments (← get).site.files name arguments with
  | .error .usage => throw (.exit usageStatus)
  | .ok command => do
    let engine ← modifyGet fun c =>
      let (engine, site) := c.site.addEngine settings.engine
      (engine, { c with site })
    command.run settings engine

/-- The outcome of a command that was started on a console. -/
def outcomeOf (flags : Flags) (x : Run Unit) (c : Console) : Outcome :=
  let (result, c) := x.run c
  let (status, escaped) : Nat × Option Fault :=
    match result with
    | .ok () => (0, none)
    | .error (.exit status) => (status, none)
    | .error (.fault f) => (failureStatus, some f)
  { status, escaped, flags, out := c.out, log := c.site.log, files := c.site.files }

/-- Run the program. -/
def run (files : Tree) (env : List (String × String)) (arguments : List String) : Outcome :=
  match Invocation.ofArguments files arguments with
  | .error .usage => { status := usageStatus, files }
  | .ok .help => { status := 0, out := helpText, files }
  | .ok .version => { status := 0, out := versionText ++ "\n", files }
  | .ok (.command flags name more) =>
    outcomeOf flags (runCommand env flags name more)
      { site := { files, activity := { ids := fun n => toString n } } }

/-- What is written about the records of a run. -/
def Outcome.logText (o : Outcome) (terminal : Bool) (time : Moment) : String :=
  (Log.Handler.ofFlags o.flags.verbose o.flags.quiet o.flags.ci terminal).writeAll time o.log

end DeferredViews.CommandLine
