import DeferredViews.Template.Evaluate

/-!
# Loops and includes by their parts

A loop finds out which items pass its condition, prints its body for each of them, and joins the
texts, or prints its other branch if there are none. An include finds a template and runs it. The
parts have names here, so that what holds of a loop or of an include is put together from what
holds of each part.
-/
namespace DeferredViews.Template

variable {σ : Type} (h : Host σ) (embed : Template → Locals → Action σ String)
  (name : Option String) (s : Scope)

/-- Whether an item passes the condition of a loop. -/
def itemPasses (target : Target) (condition : Option Expr) (v : Value) : Action σ Bool := do
  match condition with
  | none => return true
  | some e =>
    let bound ← .ofExcept (target.bind v)
    return (← e.eval h name (s.enter bound [])).truthy

/-- What the body of a loop prints for an item, besides which it may see the state of the loop. -/
def itemText (target : Target) (body : List Stmt) (state : List (String × Value)) (v : Value) :
    Action σ String := do
  let bound ← .ofExcept (target.bind v)
  let (_, out) ← runAll h embed name (s.enter (state ++ bound) body) body
  return out

/-- What a loop prints for each item that passes. Where the body reads the state of the loop, all
items are tested before the first one is printed. -/
def loopTexts (target : Target) (condition : Option Expr) (body : List Stmt) (xs : List Value) :
    Action σ (List String) :=
  if anyReads "loop" body then do
    let kept ← keepEach (itemPasses h name s target condition) xs
    printIndexed
      (fun i v => itemText h embed name s target body [("loop", .loop i kept.length)] v) 0 kept
  else
    printEach (itemPasses h name s target condition) (itemText h embed name s target body []) xs

/-- What a loop prints in all: the texts of its items, or its other branch if there are none. -/
def loopEnd (otherwise : List Stmt) (outs : List String) : Action σ (Scope × String) :=
  if outs.isEmpty then do
    let (_, out) ← runAll h embed name (s.enter [] otherwise) otherwise
    return (s, out)
  else return (s, String.join outs)

theorem run_each (target : Target) (source : Expr) (condition : Option Expr)
    (body otherwise : List Stmt) :
    (Stmt.each target source condition body otherwise).run h embed name s = (do
      let v ← source.eval h name s
      let xs ← .ofExcept v.items
      let outs ← loopTexts h embed name s target condition body xs
      loopEnd h embed name s otherwise outs) := by
  rw [Stmt.run]
  refine bind_congr fun v => bind_congr fun xs => ?_
  rw [loopTexts]
  dsimp only
  split
  · rw [bind_assoc]
    rfl
  · rfl

/-- The template that an include is about, or none if a missing one is ignored. -/
def wanted (ignoreMissing : Bool) (v : Value) : Action σ (Option Template) :=
  if ignoreMissing then findTemplate? h v else some <$> findTemplate h v

/-- What an include prints: the template that was found, or nothing. -/
def embedded (withContext : Bool) : Option Template → Action σ (Scope × String)
  | none => return (s, "")
  | some t => return (s, ← embed t (if withContext then s.visible else h.globals))

theorem run_embed (e : Expr) (ignoreMissing withContext : Bool) :
    (Stmt.embed e ignoreMissing withContext).run h embed name s = (do
      let v ← e.eval h name s
      let found ← wanted h ignoreMissing v
      embedded h embed s withContext found) := by
  rw [Stmt.run]
  refine bind_congr fun v => ?_
  rw [wanted]
  dsimp only
  split
  · refine bind_congr fun found => ?_
    cases found <;> rfl
  · refine bind_congr fun found => ?_
    cases found <;> rfl

end DeferredViews.Template
