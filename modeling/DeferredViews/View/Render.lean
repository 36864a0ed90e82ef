import DeferredViews.Deferred.Waiting
import DeferredViews.View.Awaited
import DeferredViews.View.Engine

/-!
# Rendering a view

A render decides on a layout, loads and runs the page, wraps it, waits for the helpers whose calls
were put off, and puts their values in the places kept for them. It goes in stages, between which
other renders may go on: it gives way when it reads a file and, round by round, while helpers run.
-/
namespace DeferredViews.View

open Deferred Files

/-- A render: the engine, the absolute path of the page, and where its options are kept. -/
structure Request where
  engine : Nat
  path : String
  options : Nat
  deriving DecidableEq, Repr

/-- A layout that was loaded, with its name. -/
structure Wrapping where
  name : String
  compiled : Compiled

/-- How far a render has come. Every stage but the first and the last waits for something. -/
inductive Stage where
  | opening
  /-- A layout was found and is being read. -/
  | readingLayout (registry : Nat) (name : String) (path : Path)
  /-- The page is being read; the layout is settled. -/
  | readingPage (registry : Nat) (layout : Option Wrapping)
  /-- The page is complete but for the values of deferred calls. -/
  | settling (registry : Nat) (rendered : String) (rounds : Nat) (s : Settling)
  | ended (result : Except Stop String)

/-- A part of a render, which may end it. -/
abbrev Work := ExceptT Stop (StateM Site)

def note (r : Log.Record) : Work Unit := modify (·.note r)

/-- A result that may be a fault of the caller's data. -/
def orFault {α : Type} : Except Fault α → Work α
  | .ok a => pure a
  | .error f => throw (.fault f)

/-- Where the options `settings` are looked up: missing or false ones are empty. -/
def settingsOf (options : Locals) : Value := orEmpty (options.get? "settings")

/-- The text of a template file. A path with a null character is refused before it is looked up. -/
def templateText (files : Tree) (path : String) : Except Stop String :=
  if '\x00' ∈ path.toList then .error (.fault (.value "embedded null byte"))
  else
    match files.readText (.ofText path) with
    | .ok text => .ok text
    | .error (.file e) =>
      .error (.failure (.unreadable path ("Failed to read template " ++ path ++ ": " ++ e.message)
        (some (.unreadable (.file e)))))
    | .error (.decode e) => .error (.fault (.unreadable (.decode e)))

/-- Read a template file. -/
def readTemplate (path : String) : Work String := do
  match templateText (← get).files path with
  | .ok text => return text
  | .error stop => throw stop

/-- Compile a source for an engine, and count it. -/
def compileFor (e : Nat) (source : String) : StateM Site (Except SyntaxFault Compiled) := do
  let s ← get
  let engine := s.engine e
  set (s.setEngine e { engine with compiles := engine.compiles + 1 })
  return (Template.compile engine.autoescape none source).map fun t => ⟨e, t⟩

/-- How a fault of compiling the source of a file stops a render: a refusal names the file, and
other faults pass. -/
def refusal (path : String) : Fault → Stop
  | .syntaxError f => .failure (.template path f.message (some (.syntaxError f)))
  | f => .fault f

/-- Compile the source of a file. -/
def compileFile (e : Nat) (path source : String) : Work Compiled := do
  match ← (compileFor e source : StateM Site _) with
  | .ok c => return c
  | .error f => throw (refusal path (.syntaxError f))

/-- Run a template over the options of a render; a fault names the template. -/
def execute (r : Request) (registry : Nat) (c : Compiled) (name : String) : Work String := do
  let options := (← get).optionsAt r.options
  match ← (c.run (some registry) options).run with
  | .ok out => return out
  | .error (.fault f) => throw (.failure (.template name f.message (some f)))
  | .error i => throw (.interrupt i)

/-- Look a template up in the cache of the engine. -/
def cached? (r : Request) (space : Space) (key : String) : Work (Option Compiled) := do
  match ((← get).cacheOf r.engine).get? space.text key with
  | some c => do
    note (Log.debug Log.cacheLogger ("Template cache hit: " ++ space.text ++ ":" ++ key))
    return some c
  | none => return none

/-- Keep a template in the cache of the engine if the options ask for it. -/
def keep (r : Request) (space : Space) (key : String) (c : Compiled) : Work Unit := do
  let s ← get
  let enabled := ((s.optionsAt r.options).get? "cache").any Value.truthy
  let (kept, cache) := (s.cacheOf r.engine).put space.text key c enabled
  set (s.setCacheOf r.engine cache)
  if kept then
    note (Log.debug Log.cacheLogger
      ("Cached compiled template: " ++ space.text ++ ":" ++ key))

/-- The first issued placeholder that does not stand in the page as it was issued. -/
def firstAltered (rendered : String) (tokens : List String) : Option String :=
  tokens.find? fun t => !Text.occurs t.toList rendered.toList

/-- Put the values into the page. A delimiter left over means that a placeholder was altered. -/
def complete (r : Request) (registry : Nat) (rendered : String)
    (values : List (String × String)) : Work String := do
  let html := substitute values rendered
  if !values.isEmpty && tainted html.toList then
    let names := (← get).activity.registry registry
    let culprit := (firstAltered rendered (values.map (·.1))).elim "<unknown>" names.helperName
    throw (.failure (.helper culprit
      "placeholder was altered during rendering (was a filter applied to it?)" none))
  note (Log.debug Log.engineLogger
    ("Rendered " ++ r.path ++ " (" ++ toString html.length ++ " characters, " ++
      toString values.length ++ " async values)"))
  return html

/-- End the wait for helpers with the page, or with what went wrong first. -/
def conclude (r : Request) (registry : Nat) (rendered : String) (deadline : Option Deadline)
    (settled : Settled) : Work String := do
  for record in settled.warnings deadline do
    note record
  match settled.result deadline with
  | .ok vs => complete r registry rendered vs
  | .error stop => throw stop

/-- Run the page, wrap it, and start waiting for helpers if there are any. -/
def runPage (r : Request) (registry : Nat) (layout : Option Wrapping) (page : Compiled) :
    Work Stage := do
  let content ← execute r registry page r.path
  let rendered ←
    match layout with
    | none => pure content
    | some l => do
      modify (·.setOption r.options "body" (.markup content))
      execute r registry l.compiled l.name
  let s ← get
  let (calls, activity) := s.activity.takePending registry
  set { s with activity }
  if calls.isEmpty then return .ended (.ok (← complete r registry rendered []))
  else
    discard (orFault (deadlineOf (s.engine r.engine).timeout))
    return .settling registry rendered 0 (.ofPending calls)

/-- Go on with the page once the layout is settled. -/
def startPage (r : Request) (registry : Nat) (layout : Option Wrapping) : Work Stage := do
  match ← cached? r .file r.path with
  | some c => runPage r registry layout c
  | none => return .readingPage registry layout

/-- Look for the layout, in the cache and then in the view roots. -/
def startLayout (r : Request) (registry : Nat) (decision : LayoutDecision) (name : String) :
    Work Stage := do
  match ← cached? r .layout name with
  | some c => startPage r registry (some ⟨name, c⟩)
  | none => do
    let s ← get
    let views := (← orFault (lookup? (settingsOf (s.optionsAt r.options)) "views")).getD .null
    let (found, record) ← orFault (findLayout s.files name views (extension r.path))
    note record
    match found with
    | some path => return .readingLayout registry name path
    | none => do
      if decision ≠ .implicit then
        throw (.failure (.unreadable name ("Layout not found: " ++ name) none))
      note (Log.debug Log.engineLogger
        ("No default layout for " ++ r.path ++ ", rendering content only"))
      startPage r registry none

/-- Decide on a layout and open the registry of the render. -/
def openRender (r : Request) : Work Stage := do
  let decision ← orFault (LayoutDecision.ofOptions ((← get).optionsAt r.options))
  let s ← get
  let (registry, activity) := s.activity.openRegistry
  set { s with activity }
  match decision.name? with
  | none => startPage r registry none
  | some name => startLayout r registry decision name

/-- One more round of the helpers. -/
def settle (r : Request) (registry : Nat) (rendered : String) (rounds : Nat) (w : Settling) :
    Work Stage := do
  let s ← get
  let deadline ← orFault (deadlineOf (s.engine r.engine).timeout)
  let (w, activity) := w.advance (some registry) deadline rounds s.activity
  set { s with activity }
  match w.result? with
  | some settled => return .ended (.ok (← conclude r registry rendered deadline settled))
  | none => return .settling registry rendered (rounds + 1) w

namespace Stage

/-- What a render does when it goes on from a stage. -/
def work (r : Request) : Stage → Work Stage
  | .opening => openRender r
  | .readingLayout registry name path => do
    let source ← readTemplate path.text
    let c ← compileFile r.engine path.text source
    keep r .layout name c
    startPage r registry (some ⟨name, c⟩)
  | .readingPage registry layout => do
    let source ← readTemplate r.path
    let c ← compileFile r.engine r.path source
    keep r .file r.path c
    runPage r registry layout c
  | .settling registry rendered rounds w => settle r registry rendered rounds w
  | .ended result => return .ended result

/-- Go on to the next stage. -/
def step (r : Request) (stage : Stage) (s : Site) : Stage × Site :=
  match stage.work r s with
  | (.ok next, s) => (next, s)
  | (.error stop, s) => (.ended (.error stop), s)

/-- The task of the render is cancelled: helpers that run are stopped first. -/
def cancel : Stage → Stage
  | .settling registry rendered rounds w => .settling registry rendered rounds w.cancel
  | .ended result => .ended result
  | _ => .ended (.error (.interrupt (.cancelled "")))

def result? : Stage → Option (Except Stop String)
  | .ended result => some result
  | _ => none

/-- Whether a helper of the render has started that will never finish. -/
def isStuck : Stage → Bool
  | .settling _ _ _ w => w.anyHanging
  | _ => false

end Stage

/-- A bound on the stages of any render: a few of its own and the pauses of the slowest helper. -/
def patience (s : Site) : Nat := 5 + s.activity.patience

/-- Go on with a render until it ends, or until it can wait for ever. -/
def runStages (r : Request) : Nat → Stage → Site → Stage × Site
  | 0, stage, s => (stage, s)
  | n + 1, stage, s =>
    match stage.result? with
    | some _ => (stage, s)
    | none =>
      let (stage, s) := stage.step r s
      runStages r n stage s

/-- Go on with a render until a helper hangs, then let it make one more step and cancel it. -/
def runCancelled (r : Request) (n : Nat) : Nat → Stage → Site → Stage × Site
  | 0, stage, s => (stage.cancel, s)
  | k + 1, stage, s =>
    match stage.result? with
    | some _ => (stage, s)
    | none =>
      let (stage, s) := stage.step r s
      if stage.isStuck then
        let (stage, s) := stage.step r s
        runStages r n stage.cancel s
      else runCancelled r n k stage s

/-- The result of a stage; a render that waits for ever has none and counts as cancelled. -/
def Stage.resultOrCancelled (stage : Stage) : Except Stop String :=
  stage.result?.getD (.error (.interrupt (.cancelled "")))

/-- Render a view with nothing else going on. -/
def render (r : Request) (s : Site) : Except Stop String × Site :=
  let (stage, s) := runStages r (patience s) .opening s
  (stage.resultOrCancelled, s)

/-- Render a view and cancel it once one of its helpers hangs. -/
def renderCancelled (r : Request) (s : Site) : Except Stop String × Site :=
  let (stage, s) := runCancelled r (patience s) (patience s) .opening s
  (stage.resultOrCancelled, s)

/-- One step of every render that has not ended, in order. -/
def stepTogether : List (Request × Stage) → Site → List (Request × Stage) × Site
  | [], s => ([], s)
  | (r, stage) :: more, s =>
    let (stage, s) := stage.step r s
    let (more, s) := stepTogether more s
    ((r, stage) :: more, s)

def runTogether : Nat → List (Request × Stage) → Site → List (Request × Stage) × Site
  | 0, rs, s => (rs, s)
  | n + 1, rs, s =>
    let (rs, s) := stepTogether rs s
    runTogether n rs s

/-- A result of one of several renders: of a cancellation, no message is told. -/
def withoutMessage : Except Stop String → Except Stop String
  | .error (.interrupt (.cancelled _)) => .error (.interrupt (.cancelled ""))
  | r => r

/-- Render several views at once. -/
def renderAll (rs : List Request) (s : Site) : List (Except Stop String) × Site :=
  let (rs, s) := runTogether (patience s) (rs.map (·, .opening)) s
  (rs.map fun r => withoutMessage r.2.resultOrCancelled, s)

/-- The absolute path of a page. -/
def pagePath (files : Tree) (file : String) : String :=
  (Path.absolute ⟨.absolute, files.here⟩ (.ofText file)).text

end DeferredViews.View
