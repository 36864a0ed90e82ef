import DeferredViews.Text.Case
import DeferredViews.View.Render

/-!
# Partials

The template files of a directory become partials under names made from their file names. Files
are taken in the order of their names, a later file with the same partial name winning; a file
that cannot be read leaves the others registered but makes the whole registration fail.
-/
namespace DeferredViews.View

open Files Text

/-- The name of the partial in a file: its stem, with blanks and hyphens as underscores. -/
def partialName (p : Path) : String :=
  String.ofList (p.stem.toList.map fun c => if c = ' ' ∨ c = '-' then '_' else c)

/-- An extension without its leading points, in lower case. -/
def normalExtension (s : String) : String :=
  String.ofList (lower (s.toList.dropWhile (· == '.')))

/-- The extensions of partials unless others are given. -/
def defaultExtensions : List String := ["html", "hbs"]

/-- Whether a path in a directory is a file with one of the extensions. -/
def isTemplateFile (files : Tree) (extensions : List String) (p : Path) : Bool :=
  files.isFile p && extensions.contains (normalExtension p.suffix)

/-- The paths of what stands in a directory, in order. -/
def listing (files : Tree) (directory : Path) : Except FileError (List Path) :=
  (files.list directory).map fun names => names.map directory.child

/-- What reading some files came to: the partials by name, and the files that failed. -/
structure Harvest where
  sources : List (String × String) := []
  failures : List (String × Fault) := []

/-- Read the files in order. -/
def harvest (files : Tree) : List Path → Harvest
  | [] => {}
  | p :: more =>
    let rest := harvest files more
    match files.readText p with
    | .ok source => { rest with sources := (partialName p, source) :: rest.sources }
    | .error e => { rest with failures := (p.text, .unreadable e) :: rest.failures }

/-- Register every template file of a directory with an engine. The answer is the names of the
partials, in order. A directory with a null character is refused before it is looked up. -/
def registerPartials (e : Nat) (directory : Path) : Work (List String) := do
  let s ← get
  let engine := s.engine e
  if directory.names.any (·.contains '\x00') then
    throw (.fault (.value "embedded null byte"))
  match listing s.files directory with
  | .error err =>
    throw (.failure (.partials directory.text []
      ("Cannot list partials directory " ++ directory.text ++ ": " ++ err.message)
      (some (.unreadable (.file err)))))
  | .ok paths => do
    let accepted := isTemplateFile s.files engine.partialExtensions
    for p in paths do
      unless accepted p do
        note (Log.debug Log.engineLogger ("Skipping non-template file " ++ p.text))
    let found := harvest s.files (paths.filter accepted)
    modify fun s => s.setEngine e
      (found.sources.foldl (fun engine (name, source) => engine.setPartial name source)
        (s.engine e))
    unless found.failures.isEmpty do
      throw (.failure (.ofFailures directory.text found.failures none))
    note (Log.info Log.engineLogger
      ("Registered " ++ toString found.sources.length ++ " partial(s) from " ++ directory.text))
    return (found.sources.map (·.1)).mergeSort fun a b => decide (a ≤ b)

end DeferredViews.View
