import DeferredViews.Deferred.Activity

/-!
# Scopes

While a scope is open, calls are put off to its registry. Each task has a binding of its own for the
registry in scope. To enter a scope is to bind a registry and to save the binding that was found; to
leave it is to bring that one back. A new task starts with a copy of the binding, and outside of all
scopes no call is put off.
-/
namespace DeferredViews.Deferred

/-- The registry that is in scope for a task, and the bindings that its open scopes found, the
innermost first. -/
structure Scopes where
  binding : Option Nat := none
  saved : List (Option Nat) := []
  deriving DecidableEq, Repr

namespace Scopes

/-- The registry in scope. -/
def innermost? (s : Scopes) : Option Nat := s.binding

def current (s : Scopes) : Except Fault Nat :=
  match s.innermost? with
  | some r => .ok r
  | none => .error .noRenderInProgress

/-- Open a scope for a registry. -/
def enter (s : Scopes) (r : Nat) : Scopes := ⟨some r, s.binding :: s.saved⟩

/-- Leave the innermost scope. -/
def leave (s : Scopes) : Scopes :=
  match s.saved with
  | [] => s
  | found :: saved => ⟨found, saved⟩

/-- What a new task starts with. -/
def fork (s : Scopes) : Scopes := ⟨s.binding, []⟩

@[simp] theorem innermost?_enter (s : Scopes) (r : Nat) : (s.enter r).innermost? = some r := rfl

@[simp] theorem current_enter (s : Scopes) (r : Nat) : (s.enter r).current = .ok r := rfl

@[simp] theorem leave_enter (s : Scopes) (r : Nat) : (s.enter r).leave = s := rfl

@[simp] theorem innermost?_fork (s : Scopes) : s.fork.innermost? = s.innermost? := rfl

end Scopes

/-- Open a scope with a new registry. -/
def Activity.enterScope (a : Activity) (s : Scopes) : Nat × Scopes × Activity :=
  let (r, a) := a.openRegistry
  (r, s.enter r, a)

end DeferredViews.Deferred
