import DeferredViews.Value.Sequence
import DeferredViews.View.Render

/-!
# Direct compilation

A source text can be compiled and run over locals without a file, a layout or deferred helpers.
Functions among the locals under `block_helpers` are visible by their own names.
-/
namespace DeferredViews.View

/-- What direct compilation makes of a value: a template of a text, and anything else as it is. -/
inductive Direct where
  | unchanged (v : Value)
  | template (c : Compiled)

def compileDirect (e : Nat) (v : Value) : StateM Site (Except SyntaxFault Direct) :=
  match v.text? with
  | none => return .ok (.unchanged v)
  | some source => return (← compileFor e source).map .template

/-- A key and its value, taken from an item that must hold just these two. -/
def pairOf (index : Nat) (v : Value) : Except Fault (Value × Value) :=
  match v.items with
  | .error _ =>
    .error (.type (.arguments ("cannot convert dictionary update sequence element #" ++
      toString index ++ " to a sequence")))
  | .ok [k, w] =>
    if k.hashable then .ok (k, w) else .error (.type (.unhashable k.typeName))
  | .ok xs =>
    .error (.value ("dictionary update sequence element #" ++ toString index ++ " has length " ++
      toString xs.length ++ "; 2 is required"))

/-- The entries of a mapping, or of a sequence of pairs. -/
def entriesOf (v : Value) : Except Fault (List (Value × Value)) :=
  match v with
  | .dict es => .ok es
  | v => do
    let xs ← v.items
    xs.zipIdx.mapM fun (x, i) => pairOf i x

/-- The locals of a direct run: the given ones, hidden by the block helpers among them. -/
def directLocals (locals : Locals) : Except Fault Locals := do
  let helpers := orEmpty (locals.get? "block_helpers")
  (← entriesOf helpers).foldlM
    (fun l (k, v) =>
      match k.text? with
      | some name => .ok (l.set name v)
      | none => .error (.type (.arguments "keywords must be strings")))
    locals

/-- Run a compiled template over locals, outside of any render. -/
def Compiled.runDirect (c : Compiled) (locals : Locals) : Action Site String := do
  c.run none (← .ofExcept (directLocals locals))

end DeferredViews.View
