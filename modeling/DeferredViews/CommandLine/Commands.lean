import DeferredViews.CommandLine.Console
import DeferredViews.CommandLine.Invocation
import DeferredViews.Config.Default
import DeferredViews.Config.Load

/-!
# The commands

Rendering a view, checking a template, listing partials and writing a first configuration file.
What a command is told on the command line counts before the locals, and these before the
configuration.
-/
namespace DeferredViews.CommandLine

open Files View Run

/-! ## Rendering -/

/-- The locals in a file, which must hold a mapping. -/
def localsFrom (files : Tree) (p : Path) : Except Fault (List (Value × Value)) := do
  let s ← match files.readText p with
    | .ok s => .ok s
    | .error e => .error (.unreadable e)
  match orEmpty (some (← Yaml.read s)) with
  | .dict es => .ok es
  | _ => .error (.value ("Locals file must contain a mapping: " ++ p.text))

def loadLocals (p : Option Path) : Run (List (Value × Value)) := do
  match p with
  | none => return []
  | some p =>
    match localsFrom (← get).site.files p with
    | .ok es => return es
    | .error f => if isDataFault f then fail ("Invalid locals file: " ++ f.message) else
        throw (.fault f)

/-- Locals by name. Only texts can be names. -/
def namedLocals (es : List (Value × Value)) : Except Fault Locals :=
  es.mapM fun (k, v) =>
    match k.text? with
    | none => .error (.type (.arguments "keywords must be strings"))
    | some name => .ok (name, v)

/-- The options of a render with other roots for views. -/
def replaceViews (views : List Path) (options : Locals) : Except Fault Locals :=
  if views.isEmpty then .ok options
  else
    match options.get? "settings" with
    | some (.dict es) =>
      .ok (options.set "settings"
        (.dict (Value.insert (.str "views") (.list (views.map fun p => .str p.text)) es)))
    | v =>
      .error (.type (.arguments (quotedType v ++ " object does not support item assignment")))
where
  quotedType (v : Option Value) : String := Text.quoted ((v.map (·.typeName)).getD "NoneType")

/-- The options of a render: the configured ones, the locals, and what the command line says. -/
def renderOptions (settings : Config.Settings) (locals : Locals) (r : Rendering) :
    Except Fault Locals := do
  let options ← replaceViews r.views (← settings.renderOptions locals)
  let options := if r.cache then options.set "cache" (.bool true) else options
  .ok (if r.noLayout then options.set "layout" (.bool false)
    else
      match r.layout with
      | some l => if l.isEmpty then options else options.set "layout" (.str l)
      | none => options)

/-- The directory of partials: the given one, or else the configured one. -/
def partialsDirectory (settings : Config.Settings) (r : Rendering) :
    Except Fault (Option Path) :=
  match r.partials with
  | some p => .ok (some p)
  | none =>
    let directory := settings.partials.directory
    if !directory.truthy then .ok none
    else
      match directory.text? with
      | some s => .ok (some (.ofText s))
      | none =>
        .error (.type (.arguments ("expected str, bytes or os.PathLike object, not " ++
          directory.typeName)))

/-- Write a page to a file, in a directory that is made if it is missing. -/
def writePage (html : String) (p : Path) : Run Unit := do
  let files := (← get).site.files
  let files ← orEscapeFile (files.makeFolders (p.parent.names.length + 1) p.parent)
  modify fun c => { c with site := { c.site with files } }
  let files ← orEscapeFile (files.write p (Text.encodeUtf8 html.toList))
  modify fun c => { c with site := { c.site with files } }
  rootInfo ("Wrote " ++ toString html.length ++ " characters to " ++ p.text)

/-- Render a page with an engine of the site. -/
def renderPage (engine : Nat) (template : Path) (options : Locals) : Work String := do
  let place ← (modifyGet (·.addOptions options) : Work Nat)
  let path := pagePath (← get).files template.text
  let (result, s) := View.render { engine, path, options := place } (← get)
  set s
  match result with
  | .ok html => return html
  | .error stop => throw stop

def runRender (settings : Config.Settings) (engine : Nat) (r : Rendering) : Run Unit := do
  let locals ← loadLocals r.locals
  let options ← orEscape (do renderOptions settings (← namedLocals locals) r)
  let directory ← orEscape (partialsDirectory settings r)
  let html ← work do
    match directory with
    | some p => discard (registerPartials engine p)
    | none => pure ()
    renderPage engine r.template options
  match r.output with
  | none => print html
  | some p => writePage html p

/-! ## The other commands -/

/-- Read a template of a language and say whether it can be read. No code is generated, so what
would be refused only then does not matter. -/
def checkForm {Tree Code : Type} (l : Template.Language Tree Code) (template : Path) :
    Run Unit := do
  rootInfo ("Validating template: " ++ template.text)
  match (← get).site.files.readText template with
  | .error e => throw (.fault (.unreadable e))
  | .ok source =>
    match l.read false source with
    | .ok _ => printLine ("✅ Template is valid: " ++ template.text)
    | .error (.syntaxError e) => do
      note (Log.error Log.rootLogger ("Template syntax error: " ++ e.message))
      printLine ("❌ Template syntax error at line " ++ toString e.line ++ ": " ++ e.message)
      throw (.exit 1)
    | .error f => throw (.fault f)

def runValidate (template : Path) : Run Unit := checkForm Template.Language.standard template

def runPartials (engine : Nat) (directory : Path) : Run Unit := do
  let names ← work (registerPartials engine directory)
  for name in names do
    printLine name

def runInit (force : Bool) : Run Unit := do
  let files := (← get).site.files
  let p : Path := ⟨.absolute, files.here ++ ["jinjaview.yaml"]⟩
  if files.fileExists p ∧ !force then
    fail ("Config file already exists: " ++ p.text ++ " (use --force to overwrite)")
  else do
    let files ← orEscapeFile (files.write p (Text.encodeUtf8 Config.defaultText.toList))
    modify fun c => { c with site := { c.site with files } }
    printLine ("Created " ++ p.text)

def helpText : String :=
  "Usage: jinjaview [--config FILE] [--verbose] [--quiet] [--ci] COMMAND\n" ++
  "       jinjaview --version | --help\n" ++
  "Commands:\n" ++
  "  render TEMPLATE [--views DIR]... [--layout NAME | --no-layout] [--locals FILE]\n" ++
  "         [--partials DIR] [--output FILE] [--cache]\n" ++
  "  validate TEMPLATE\n" ++
  "  partials DIR\n" ++
  "  init [--force]\n"

def Command.run (settings : Config.Settings) (engine : Nat) : Command → Run Unit
  | .help => print helpText
  | .render r => runRender settings engine r
  | .validate template => runValidate template
  | .partials directory => runPartials engine directory
  | .init force => runInit force

end DeferredViews.CommandLine
