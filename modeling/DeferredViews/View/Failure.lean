import DeferredViews.Fault

/-!
# Failures of views

Every failure of a render or of registering partials has one of four forms, each with the file,
directory or helper at fault and, where there is one, the fault that caused it.
-/
namespace DeferredViews.View

open Text

inductive Failure where
  /-- A page or a layout asked for is missing or cannot be read. -/
  | unreadable (path message : String) (cause : Option Fault)
  /-- A template is refused, or fails while it runs. -/
  | template (path message : String) (cause : Option Fault)
  /-- Partials could not be registered. -/
  | partials (directory : String) (failures : List (String × Fault)) (message : String)
      (cause : Option Fault)
  /-- A helper failed, took too long, or gave or met something unsafe. -/
  | helper (name message : String) (cause : Option Fault)
  deriving DecidableEq, Repr

namespace Failure

/-- The failure to read a file, with its own message or the usual one. -/
def ofPath (path : String) (message : Option String) : Failure :=
  .unreadable path
    (match message with
      | some m => if m.isEmpty then "Template not found: " ++ path else m
      | none => "Template not found: " ++ path)
    none

/-- The failure to register some files, with its own message or the usual one. -/
def ofFailures (directory : String) (failures : List (String × Fault))
    (message : Option String) : Failure :=
  .partials directory failures
    (message.getD ("Failed to register " ++ toString failures.length ++ " partial(s) from " ++
      directory ++ ": " ++ String.intercalate ", " (failures.map (·.1))))
    none

def message : Failure → String
  | unreadable _ m _ => m
  | template path m _ => path ++ ": " ++ m
  | partials _ _ m _ => m
  | helper name m _ => "Async helper " ++ quoted name ++ " failed: " ++ m

def cause : Failure → Option Fault
  | unreadable _ _ c | template _ _ c | partials _ _ _ c | helper _ _ c => c

/-- The class of a failure, as answers name it. -/
def kind : Failure → String
  | unreadable .. => "FileReadError"
  | template .. => "CompileError"
  | partials .. => "PartialRegistrationError"
  | helper .. => "AsyncHelperError"

end Failure

/-- What ends a render without a page: a failure, or an interrupt that no failure stands for. -/
inductive Stop where
  | failure (f : Failure)
  | interrupt (i : Interrupt)
  deriving DecidableEq, Repr

def Stop.fault (f : Fault) : Stop := .interrupt (.fault f)

end DeferredViews.View
