import DeferredViews.Config.Environment
import DeferredViews.Value.Sequence
import DeferredViews.View.Partials

/-!
# Configuration

A configuration says where views and partials are, which layout pages have, and how they are
rendered. It is read from a mapping, field by field; the first field that cannot be used ends the
reading. Most values are kept as they were given.
-/
namespace DeferredViews.Config

/-- How partials are registered. -/
structure Partials where
  directory : Value := .null
  extensions : List String := View.defaultExtensions

/-- How views are rendered. -/
structure Rendering where
  autoescape : Value := .bool true
  /-- How many seconds to wait for helpers; null waits for ever. -/
  timeout : Value := .null

structure Settings where
  views : List String := ["views"]
  /-- The name of the default layout, false for none, or null to leave the choice open. -/
  layout : Value := .null
  cache : Bool := false
  partials : Partials := {}
  rendering : Rendering := {}

/-- The extension that a value gives, without leading points and in lower case. -/
def extensionOf (v : Value) : Except Fault String :=
  match v.text? with
  | some s => .ok (View.normalExtension s)
  | none => .error (.noMember v.typeName "lstrip")

/-- The extensions that a value gives; a text gives one for each of its characters. -/
def extensionsOf (v : Value) : Except Fault (List String) := do
  (← v.items).mapM extensionOf

/-- Settings for partials. At least one extension is needed. -/
def Partials.of (directory extensions : Value) : Except Fault Partials :=
  if extensions.truthy then do .ok ⟨directory, ← extensionsOf extensions⟩
  else .error (.value "At least one partial extension is required")

/-- Settings for rendering. A timeout must be a positive number. -/
def Rendering.of (autoescape timeout : Value) : Except Fault Rendering :=
  match timeout with
  | .null => .ok ⟨autoescape, .null⟩
  | v => do
    if ← Value.ordered .le v (.int 0) then
      .error (.value ("async_timeout must be positive (got " ++ v.text ++ ")"))
    else .ok ⟨autoescape, v⟩

/-- The value of a field that a value has. Only mappings have fields by name. -/
def field (v : Value) (name : String) : Except Fault Value :=
  match v with
  | .dict es => .ok ((Value.find? es (.str name)).getD .null)
  | .str _ | .markup _ => .error (.type (.arguments "string indices must be integers, not 'str'"))
  | v =>
    .error (.type (.arguments (v.typeName ++ " indices must be integers or slices, not str")))

/-- Whether a value has a field; in texts and lists the name itself is looked for. -/
def hasField (v : Value) (name : String) : Except Fault Bool := Value.member (.str name) v

/-- The value of a field if there is one. -/
def field? (v : Value) (name : String) : Except Fault (Option Value) := do
  if ← hasField v name then do .ok (some (← field v name)) else .ok none

/-- The view roots that a field gives: a text is one root. -/
def viewsOf (v : Value) : Except Fault (List String) :=
  match v.text? with
  | some s => .ok [s]
  | none => do .ok ((← (if v.truthy then v else .list []).items).map Value.text)

/-- The default layout that the view options give, if they do: a false value means none. -/
def layoutOf (data : Value) : Except Fault (Option Value) := do
  let options := View.orEmpty (← View.lookup? data "view_options")
  .ok ((← field? options "layout").map fun v => if v.truthy then v else .bool false)

def partialsOf (v : Value) : Except Fault Partials := do
  let v := View.orEmpty (some v)
  let directory := (← View.lookup? v "directory").getD .null
  let extensions := (← View.lookup? v "extensions").getD (.list (View.defaultExtensions.map .str))
  Partials.of directory extensions

def renderingOf (v : Value) : Except Fault Rendering := do
  let v := View.orEmpty (some v)
  let autoescape := (← View.lookup? v "autoescape").getD (.bool true)
  let timeout := (← View.lookup? v "async_timeout").getD .null
  Rendering.of autoescape timeout

/-- Read settings from data whose references to the environment are replaced first. -/
def Settings.ofValue (env : List (String × String)) (data : Value) : Except Fault Settings := do
  let data ← resolveValue env data
  let views ← (← field? data "views").mapM viewsOf
  let layout ← layoutOf data
  let cache := (← field? data "cache").map Value.truthy
  let partials ← (← field? data "partials").mapM partialsOf
  let rendering ← (← field? data "render").mapM renderingOf
  let base : Settings := {}
  .ok
    { views := views.getD base.views
      layout := layout.getD base.layout
      cache := cache.getD base.cache
      partials := partials.getD base.partials
      rendering := rendering.getD base.rendering }

namespace Settings

/-- The settings that every render of these views gets. -/
def shared (s : Settings) : Value :=
  let options := if s.layout.equals .null then [] else [(Value.str "layout", s.layout)]
  .dict [(.str "views", .list (s.views.map .str)), (.str "view options", .dict options)]

/-- The options of a render with these locals, which may replace the settings. One name is
taken. -/
def renderOptions (s : Settings) (locals : Locals) : Except Fault Locals :=
  if locals.contains "self" then
    .error (.type (.arguments "got multiple values for argument 'self'"))
  else .ok (Locals.update [("settings", s.shared), ("cache", .bool s.cache)] locals)

/-- An engine with these settings. -/
def engine (s : Settings) (cache : Nat) : View.Engine :=
  { autoescape := s.rendering.autoescape.truthy
    cache
    partialExtensions := s.partials.extensions.map View.normalExtension
    timeout := s.rendering.timeout }

end Settings
end DeferredViews.Config
