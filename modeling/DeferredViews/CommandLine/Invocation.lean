import DeferredViews.CommandLine.Arguments
import DeferredViews.Files.Tree

/-!
# Invocations

What an argument list asks for: a text about the program, or a command with its options after
options for all commands. Paths that must be there are looked up, and those that must be a file or
a directory must not be the other.
-/
namespace DeferredViews.CommandLine

open Files

/-- What a path given as text leads to. A path with a slash at its end leads to a directory only. -/
def entryAt (files : Tree) (s : String) : Option Entry :=
  if s.isEmpty then none
  else
    match files.find? (.ofText s) with
    | some (.file bytes) =>
      if s.endsWith "/" ∨ s.endsWith "/." then none else some (.file bytes)
    | e => e

/-- A file that must be there. -/
def existingFile (files : Tree) (s : String) : Except UsageError Path :=
  match entryAt files s with
  | some (.file _) => .ok (.ofText s)
  | _ => .error .usage

/-- A directory that must be there. -/
def existingFolder (files : Tree) (s : String) : Except UsageError Path :=
  match entryAt files s with
  | some .folder => .ok (.ofText s)
  | _ => .error .usage

/-- A directory that may be missing. -/
def possibleFolder (files : Tree) (s : String) : Except UsageError Path :=
  match entryAt files s with
  | some (.file _) => .error .usage
  | _ => .ok (.ofText s)

/-! ## Options of the program -/

structure Flags where
  config : Option Path := none
  verbose : Bool := false
  quiet : Bool := false
  ci : Bool := false
  deriving DecidableEq, Repr

inductive CommandName where
  | render
  | validate
  | partials
  | init
  deriving DecidableEq, Repr

def CommandName.ofText? : String → Option CommandName
  | "render" => some .render
  | "validate" => some .validate
  | "partials" => some .partials
  | "init" => some .init
  | _ => none

inductive Invocation where
  | help
  | version
  | command (flags : Flags) (name : CommandName) (arguments : List String)
  deriving DecidableEq, Repr

def helpOption : OptionKind := ⟨["--help"], false⟩

def programOptions : List OptionKind :=
  [⟨["--config", "-c"], true⟩, ⟨["--verbose", "-v"], false⟩, ⟨["--quiet", "-q"], false⟩,
    ⟨["--ci"], false⟩, ⟨["--version"], false⟩, helpOption]

/-- The options for all commands. -/
def flagsOf (files : Tree) (a : Arguments) : Except UsageError Flags := do
  .ok
    { config := ← (a.value? "--config").mapM (existingFile files)
      verbose := a.has "--verbose"
      quiet := a.has "--quiet"
      ci := a.has "--ci" }

/-- Read an argument list up to the name of the command. The first option that asks for a text
about the program counts before everything else. -/
def Invocation.ofArguments (files : Tree) (arguments : List String) :
    Except UsageError Invocation := do
  let a ← readArguments programOptions false arguments
  match a.options.find? fun o => o.name = "--version" ∨ o.name = "--help" with
  | some o => .ok (if o.name = "--version" then .version else .help)
  | none =>
    let flags ← flagsOf files a
    match a.plain with
    | [] => .error .usage
    | name :: more =>
      match CommandName.ofText? name with
      | some name => .ok (.command flags name more)
      | none => .error .usage

/-! ## Commands -/

structure Rendering where
  template : Path
  /-- Roots for views that replace the configured ones, if there are any. -/
  views : List Path := []
  layout : Option String := none
  noLayout : Bool := false
  locals : Option Path := none
  partials : Option Path := none
  output : Option Path := none
  cache : Bool := false
  deriving DecidableEq, Repr

inductive Command where
  | help
  | render (r : Rendering)
  | validate (template : Path)
  | partials (directory : Path)
  | init (force : Bool)
  deriving DecidableEq, Repr

def CommandName.options : CommandName → List OptionKind
  | .render =>
    [⟨["--views"], true⟩, ⟨["--layout", "-l"], true⟩, ⟨["--no-layout"], false⟩,
      ⟨["--locals"], true⟩, ⟨["--partials", "-p"], true⟩, ⟨["--output", "-o"], true⟩,
      ⟨["--cache"], false⟩, helpOption]
  | .validate | .partials => [helpOption]
  | .init => [⟨["--force", "-f"], false⟩, helpOption]

def renderingOf (files : Tree) (a : Arguments) (template : String) :
    Except UsageError Rendering := do
  .ok
    { template := ← existingFile files template
      views := ← (a.values "--views").mapM (possibleFolder files)
      layout := a.value? "--layout"
      noLayout := a.has "--no-layout"
      locals := ← (a.value? "--locals").mapM (existingFile files)
      partials := ← (a.value? "--partials").mapM (possibleFolder files)
      output := (a.value? "--output").map .ofText
      cache := a.has "--cache" }

/-- Read the arguments of a command. -/
def Command.ofArguments (files : Tree) (name : CommandName) (arguments : List String) :
    Except UsageError Command := do
  let a ← readArguments name.options true arguments
  if a.has "--help" then .ok .help
  else
    match name, a.plain with
    | .render, [template] => return .render (← renderingOf files a template)
    | .validate, [template] => return .validate (← existingFile files template)
    | .partials, [directory] => return .partials (← existingFolder files directory)
    | .init, [] => return .init (a.has "--force")
    | _, _ => .error .usage

end DeferredViews.CommandLine
