import DeferredViews.View.Partials

/-!
# Results by callback

A piece of work can hand its result to a callback: a value, or the error that ended it. The callback
may fail itself, which ends the work with its failure. A cancellation is no error of that kind: it
ends the work without a word to the callback.
-/
namespace DeferredViews.View

/-- A function that is told an error or a value. -/
abbrev Callback (α : Type) := Option Stop → Option α → Work Unit

/-- A site, and what a callback was called with so far. -/
structure Told (α : Type) where
  site : Site
  calls : List (Option Stop × Option α) := []

namespace Told

variable {α : Type}

def call (callback : Callback α) (error : Option Stop) (value : Option α) (t : Told α) :
    Except Stop Unit × Told α :=
  let (ended, site) := callback error value t.site
  (ended, ⟨site, t.calls ++ [(error, value)]⟩)

/-- Tell a callback how a piece of work went, and how that ends in turn. -/
def tell (callback : Callback α) (result : Except Stop α) (t : Told α) :
    Except Stop Unit × Told α :=
  match result with
  | .ok a => t.call callback none (some a)
  | .error (.interrupt (.cancelled message)) => (.error (.interrupt (.cancelled message)), t)
  | .error e => t.call callback (some e) none

end Told

/-- A render with a callback: under way, or at its end. -/
inductive Errand where
  | rendering (stage : Stage)
  | done (ended : Except Stop Unit)

namespace Errand

/-- Go on with the render. When it ends, the callback is told in the same breath. -/
def step (callback : Callback String) (r : Request) (errand : Errand) (t : Told String) :
    Errand × Told String :=
  match errand with
  | .done ended => (.done ended, t)
  | .rendering stage =>
    let (stage, site) := stage.step r t.site
    match stage.result? with
    | none => (.rendering stage, { t with site })
    | some result =>
      let (ended, t) := Told.tell callback result { t with site }
      (.done ended, t)

def run (callback : Callback String) (r : Request) :
    Nat → Errand → Told String → Errand × Told String
  | 0, errand, t => (errand, t)
  | n + 1, errand, t =>
    let (errand, t) := errand.step callback r t
    run callback r n errand t

/-- What the caller is left with: inside a running loop a task that has not begun, outside of one
the work done. -/
def start (callback : Callback String) (inLoop : Bool) (r : Request) (s : Site) :
    Errand × Told String :=
  if inLoop then (.rendering .opening, ⟨s, []⟩)
  else run callback r (patience s) (.rendering .opening) ⟨s, []⟩

/-- How the work ended. Work that waits for ever counts as cancelled. -/
def ended : Errand → Except Stop Unit
  | .done ended => ended
  | .rendering _ => .error (.interrupt (.cancelled ""))

end Errand

/-- A run with a callback: whether it was only scheduled when the call returned, what the callback
got, and the message of its cancellation if it was cancelled. -/
structure Delivered (α : Type) where
  scheduled : Bool
  received : List (Except Stop α)
  cancelled : Option String

/-- What a callback got in one call. -/
def received? {α : Type} : Option Stop × Option α → Option (Except Stop α)
  | (some e, _) => some (.error e)
  | (none, some a) => some (.ok a)
  | (none, none) => none

/-- The message of a cancellation. -/
def cancellation? : Except Stop Unit → Option String
  | .error (.interrupt (.cancelled message)) => some message
  | _ => none

def Told.delivered {α : Type} (t : Told α) (inLoop : Bool) (ended : Except Stop Unit) :
    Delivered α :=
  { scheduled := inLoop
    received := t.calls.filterMap received?
    cancelled := cancellation? ended }

/-- A callback that does nothing of its own. -/
def listen {α : Type} : Callback α := fun _ _ => pure ()

/-- Render a view and hand the result to a callback. A task that was scheduled is waited for. -/
def renderWithCallback (inLoop : Bool) (r : Request) (s : Site) : Delivered String × Site :=
  let (errand, t) := Errand.start listen inLoop r s
  let (errand, t) := Errand.run listen r (patience s) errand t
  (t.delivered inLoop errand.ended, t.site)

/-- Register partials and tell a callback how it went. -/
def registerPartialsWithCallback (inLoop : Bool) (e : Nat) (directory : Files.Path) (s : Site) :
    Delivered (List String) × Site :=
  let (result, s) := registerPartials e directory s
  let (ended, t) := Told.tell listen result ⟨s, []⟩
  (t.delivered inLoop ended, t.site)

end DeferredViews.View
