import DeferredViews.Deferred.Settling

/-!
# Waiting for calls

To wait for the calls of a registry is to take them all and go round by round until each has come
to something. A wait with a deadline stops what is unfinished then; a wait may also be cancelled.
-/
namespace DeferredViews.Deferred

/-- One round of a wait, after which the deadline may have passed. -/
def Settling.advance (scope : Option Nat) (deadline : Option Deadline) (rounds : Nat)
    (w : Settling) (a : Activity) : Settling × Activity :=
  let (w, a) := w.round scope a
  (if deadline.any (·.hasPassed (rounds + 1) w) then w.expire else w, a)

/-- Go on with a wait for so many rounds at most. -/
def Settling.run (scope : Option Nat) (deadline : Option Deadline) :
    Nat → Nat → Settling → Activity → Settling × Activity
  | 0, _, w, a => (w, a)
  | fuel + 1, rounds, w, a =>
    match w.result? with
    | some _ => (w, a)
    | none =>
      let (w, a) := w.advance scope deadline rounds a
      Settling.run scope deadline fuel (rounds + 1) w a

/-- Go on with a wait until a task hangs; after one more round the wait is cancelled. -/
def Settling.runCancelled (scope : Option Nat) : Nat → Settling → Activity → Settling × Activity
  | 0, w, a => (w, a)
  | fuel + 1, w, a =>
    match w.result? with
    | some _ => (w, a)
    | none =>
      let (w, a) := w.round scope a
      if w.anyHanging then
        let (w, a) := w.round scope a
        w.cancel.round scope a
      else Settling.runCancelled scope fuel w a

/-- A bound on the rounds of any wait. -/
def Activity.patience (a : Activity) : Nat :=
  5 + (a.helpers.map (·.pauses)).foldl max 0

theorem Activity.patience_ne_zero (a : Activity) : a.patience ≠ 0 := by
  rw [patience]
  omega

/-- Take the pending calls of a registry. -/
def Activity.takePending (a : Activity) (r : Nat) : List Pending × Activity :=
  let (calls, registry) := (a.registry r).take
  (calls, a.setRegistry r registry)

/-- Wait for the pending calls of a registry. A wait that would last for ever counts as
cancelled. -/
def Activity.settle (a : Activity) (r : Nat) (scope : Option Nat) (deadline : Option Deadline) :
    Settled × Activity :=
  let (calls, a) := a.takePending r
  let (w, a) := (Settling.ofPending calls).run scope deadline a.patience 0 a
  (w.result?.getD (.cancelled ""), a)

/-- Wait for the pending calls of a registry, and cancel the wait once one of them hangs. -/
def Activity.settleCancelled (a : Activity) (r : Nat) (scope : Option Nat) :
    Settled × Activity :=
  let (calls, a) := a.takePending r
  let (w, a) := (Settling.ofPending calls).runCancelled scope a.patience a
  (w.result?.getD (.cancelled ""), a)

end DeferredViews.Deferred
