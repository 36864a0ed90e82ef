import DeferredViews.Config.Settings
import DeferredViews.Yaml.Document

/-!
# Configuration files

A configuration file is named outright or found in one of two places below a directory. A file
without content gives the default settings.
-/
namespace DeferredViews.Config

open Files

/-- The places of configuration files below a directory, in the order in which they count. -/
def candidates (start : Path) : List Path :=
  [(start.child ".jinjaview").child "config.yaml", start.child "jinjaview.yaml"]

/-- The configuration file below a directory. -/
def locate (files : Tree) (start : Path) : Option Path :=
  let start : Path := ⟨.absolute, (Path.absolute ⟨.absolute, files.here⟩ start).names⟩
  (candidates start).find? files.fileExists

/-- The place that is told for bytes that are no text. A character that is cut off by the end of
the file is read on its own, so its place counts from its own first byte. -/
def tailPlace (e : Text.Utf8Error) : Text.Utf8Error :=
  if e.fault = .truncated then { e with position := 0 } else e

/-- The data in a configuration file; an empty or false document counts as an empty mapping. -/
def dataOf (files : Tree) (p : Path) : Except Fault Value :=
  match files.readText p with
  | .error (.file e) => .error (.unreadable (.file e))
  | .error (.decode e) => .error (.unreadable (.decode (tailPlace e)))
  | .ok s => do .ok (View.orEmpty (some (← Yaml.read s)))

/-- Settings, and the file that they were read from. -/
structure Loaded where
  settings : Settings := {}
  path : Option Path := none

def loadFrom (files : Tree) (env : List (String × String)) (p : Path) : Except Fault Loaded := do
  let data ← dataOf files p
  .ok ⟨← Settings.ofValue env data, some p⟩

/-- The settings of the named file, or else of the one that is found below the working directory
if it is to be looked for; without a file these are the default settings. -/
def load (files : Tree) (env : List (String × String)) (path : Option Path) (discover : Bool) :
    Except Fault Loaded :=
  match path with
  | some p =>
    if files.fileExists p then loadFrom files env p else .error (.noConfiguration p.text)
  | none =>
    match if discover then locate files ⟨.relative, []⟩ else none with
    | some p => loadFrom files env p
    | none => .ok {}

end DeferredViews.Config
