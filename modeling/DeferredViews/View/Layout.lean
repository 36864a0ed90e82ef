import DeferredViews.Files.Tree
import DeferredViews.Log.Record
import DeferredViews.Value.Compare
import DeferredViews.Value.Text

/-!
# Layouts

A page may be wrapped in a layout. The options of a render name it, or rule it out, or leave it to
the default, which is used where it exists. A layout is looked for in the view roots, in order; a
name without an extension borrows the extension of the page.
-/
namespace DeferredViews.View

open Files

/-- How the layout of a render was chosen. -/
inductive LayoutDecision where
  | explicit (name : String)
  | without
  | implicit
  deriving DecidableEq, Repr

def defaultLayout : String := "layout"

namespace LayoutDecision

/-- The name of the layout to look up. -/
def name? : LayoutDecision → Option String
  | explicit name => some name
  | without => none
  | implicit => some defaultLayout

/-- A present choice: a value that counts as false rules the layout out. -/
def ofValue (v : Value) : LayoutDecision := if v.truthy then explicit v.text else without

end LayoutDecision

/-- The entry of a key in a mapping value, which must be a mapping. -/
def lookup? (v : Value) (key : String) : Except Fault (Option Value) :=
  match v with
  | .dict es => .ok (Value.find? es (.str key))
  | v => .error (.noMember v.typeName "get")

/-- A value, or an empty mapping where it is missing or counts as false. -/
def orEmpty (v : Option Value) : Value :=
  match v with
  | some v => if v.truthy then v else .dict []
  | none => .dict []

/-- The choice that render options make: their own `layout`, else that of the inherited view
options, else the default. -/
def LayoutDecision.ofOptions (options : Locals) : Except Fault LayoutDecision :=
  match options.get? "layout" with
  | some v => .ok (.ofValue v)
  | none => do
    let settings := orEmpty (options.get? "settings")
    let viewOptions := orEmpty (← lookup? settings "view options")
    match ← lookup? viewOptions "layout" with
    | some v => .ok (.ofValue v)
    | none => .ok .implicit

/-- A path given as a value. -/
def pathOf (v : Value) : Except Fault Path :=
  match v.text? with
  | some s => .ok (.ofText s)
  | none =>
    .error (.type (.arguments
      ("expected str, bytes or os.PathLike object, not " ++ v.typeName)))

/-- The view roots of a `views` setting: none, one, or several in order. -/
def viewRoots (views : Value) : Except Fault (List Path) :=
  if !views.truthy then .ok []
  else
    match views with
    | .str s | .markup s => .ok [.ofText s]
    | .list items | .tuple items => items.mapM pathOf
    | .dict entries => entries.mapM fun (k, _) => pathOf k
    | v => .error (.type (.notIterable v.typeName))

/-- The file name of a layout. -/
def layoutFile (name extension : String) : String :=
  if (Files.extension name).isEmpty then name ++ extension else name

/-- The first view root that holds a file as a layout. -/
def searchRoots (files : Tree) (file : Path) (roots : List Path) : Option Path :=
  (roots.map (· ++ file)).find? files.isFile

/-- Look for a layout, and tell what was found. -/
def findLayout (files : Tree) (name : String) (views : Value) (extension : String) :
    Except Fault (Option Path × Log.Record) := do
  let file := layoutFile name extension
  let logger := Log.layoutLogger
  match searchRoots files (.ofText file) (← viewRoots views) with
  | some path =>
    .ok (some path, Log.debug logger
      ("Resolved layout " ++ Text.quoted name ++ " to " ++ path.text))
  | none =>
    .ok (none, Log.debug logger
      ("Layout " ++ Text.quoted file ++ " not found in " ++ views.text))

end DeferredViews.View
