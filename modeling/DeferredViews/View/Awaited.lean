import DeferredViews.Deferred.Waiting
import DeferredViews.Log.Record
import DeferredViews.Value.Compare
import DeferredViews.View.Failure

/-!
# What waiting for helpers came to

The end of a wait is told to the caller as values or as one failure, and to the log as warnings
about every helper at fault.
-/
namespace DeferredViews.View

open Deferred

/-- The deadline of a timeout, which must be a number; null means none. -/
def deadlineOf : Value → Except Fault (Option Deadline)
  | .null => .ok none
  | v =>
    if v.numeric?.isSome then .ok (some (.ofValue v))
    else .error (.type (.operands "+" "float" v.typeName))

/-- The time of a deadline in messages. -/
def timeText (deadline : Option Deadline) : String := (deadline.map (·.text)).getD "None"

end DeferredViews.View

namespace DeferredViews.Deferred.Settled

open View

/-- The warnings about the helpers at fault. -/
def warnings (deadline : Option Deadline) (s : Settled) : List Log.Record :=
  let logger := Log.helperLogger
  match s with
  | .timedOut stalled =>
    [Log.warning logger ("Async helpers timed out after " ++ timeText deadline ++ "s: " ++
      (Value.list (stalled.map Value.str)).shown)]
  | .failed failures =>
    failures.map fun (name, f) =>
      Log.warning logger ("Async helper " ++ name ++ " raised: " ++ f.message)
  | _ => []

/-- The values, or the failure of the first helper at fault. -/
def result (deadline : Option Deadline) (s : Settled) : Except Stop (List (String × String)) :=
  match s with
  | .values vs => .ok vs
  | .cancelled message => .error (.interrupt (.cancelled message))
  | .timedOut stalled =>
    .error (.failure (.helper (stalled.head?.getD "")
      ("timed out after " ++ timeText deadline ++ "s") none))
  | .failed failures =>
    match failures with
    | (name, f) :: _ => .error (.failure (.helper name f.message (some f)))
    | [] => .ok []
  | .tainted name =>
    .error (.failure (.helper name "resolved value contains the placeholder delimiter" none))

end DeferredViews.Deferred.Settled

namespace DeferredViews.View

open Deferred

/-- Wait for the pending calls of a registry. Without any there is nothing to wait for, and no
timeout is looked at. -/
def await (a : Activity) (r : Nat) (scope : Option Nat) (timeout : Value) :
    Except Stop (List (String × String)) × Activity :=
  if (a.registry r).pending.isEmpty then (.ok [], a)
  else
    match deadlineOf timeout with
    | .error f => (.error (.fault f), (a.takePending r).2)
    | .ok deadline =>
      let (settled, a) := a.settle r scope deadline
      (settled.result deadline, a)

/-- Wait for the pending calls of a registry, and cancel the wait once one of them hangs. -/
def awaitCancelled (a : Activity) (r : Nat) (scope : Option Nat) :
    Except Stop (List (String × String)) × Activity :=
  let (settled, a) := a.settleCancelled r scope
  (settled.result none, a)

end DeferredViews.View
