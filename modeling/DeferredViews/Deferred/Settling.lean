import DeferredViews.Deferred.Activity
import DeferredViews.Value.Text

/-!
# Settling the calls that were put off

All pending calls run side by side, each as a task, in rounds: in every round each unfinished task
makes one step, in the order in which the calls were registered. When all tasks are finished, or
when a deadline or a cancellation has ended those that were not, the result depends only on what
each task came to, in registration order.
-/
namespace DeferredViews.Deferred

/-- What a finished task came to. -/
inductive Outcome where
  | value (v : Value)
  | fault (f : Fault)
  | cancelled (message : String)

inductive TaskState where
  | ready
  /-- Started, and about to let the others go on so many times more. -/
  | pausing (left : Nat) (call : Call)
  | hanging
  /-- Told to stop; `hung` says that it will note its end. -/
  | cancelling (hung : Bool)
  | finished (o : Outcome)

structure Task where
  call : Pending
  state : TaskState := .ready

namespace Task

def outcome? (t : Task) : Option Outcome :=
  match t.state with
  | .finished o => some o
  | _ => none

def isFinished (t : Task) : Bool := t.outcome?.isSome

/-- Tell a task to stop. A finished task stays finished. -/
def cancel (t : Task) : Task :=
  match t.state with
  | .finished _ => t
  | .hanging => { t with state := .cancelling true }
  | .cancelling hung => { t with state := .cancelling hung }
  | _ => { t with state := .cancelling false }

/-- Telling a task to stop does not change what it has come to. -/
@[simp] theorem outcome?_cancel (t : Task) : t.cancel.outcome? = t.outcome? := by
  unfold cancel
  split <;> simp_all [outcome?]

@[simp] theorem call_cancel (t : Task) : t.cancel.call = t.call := by
  unfold cancel
  split <;> rfl

/-- Let a body answer. -/
def conclude (scope : Option Nat) (h : Helper) (call : Call) (a : Activity) :
    TaskState × Activity :=
  match answer scope (h.body call) a with
  | (.value v, a) => (.finished (.value v), a)
  | (.interrupt (.fault f), a) => (.finished (.fault f), a)
  | (.interrupt (.cancelled message), a) => (.finished (.cancelled message), a)
  | (.never, a) => (.hanging, a)

/-- One step of a task of a known helper. -/
def advance (scope : Option Nat) (h : Helper) (t : Task) (a : Activity) : TaskState × Activity :=
  match t.state with
  | .ready =>
    let (earlier, a) := a.start t.call.helper h
    let call : Call := ⟨t.call.args, t.call.kwargs, earlier⟩
    if h.isTask ∧ h.pauses ≠ 0 then (.pausing (h.pauses - 1) call, a)
    else conclude scope h call a
  | .pausing 0 call => conclude scope h call (a.record (.resumed h.name))
  | .pausing (left + 1) call => (.pausing left call, a)
  | .hanging => (.hanging, a)
  | .cancelling hung =>
    (.finished (.cancelled ""), if hung then a.record (.cancelled h.name) else a)
  | .finished o => (.finished o, a)

/-- One step of a task. -/
def step (scope : Option Nat) (t : Task) (a : Activity) : Task × Activity :=
  match a.helpers[t.call.helper]? with
  | none => ({ t with state := .finished (.value .null) }, a)
  | some h =>
    let (state, a) := t.advance scope h a
    ({ t with state }, a)

end Task

/-- Why the unfinished tasks are being stopped. -/
inductive Ending where
  | deadline (stalled : List String)
  | cancelled
  deriving DecidableEq, Repr

/-- Calls on their way to being settled, in registration order. -/
structure Settling where
  tasks : List Task
  ending : Option Ending := none

/-- The result of settling: the values by placeholder, or what went wrong first. -/
inductive Settled where
  | values (vs : List (String × String))
  | timedOut (stalled : List String)
  | cancelled (message : String)
  | failed (failures : List (String × Fault))
  | tainted (name : String)

/-- The text that replaces a placeholder. -/
def resolvedText : Value → String
  | .null => ""
  | v => v.text

namespace Settled

/-- The message of the first task that cancelled itself. -/
def firstCancelled (tasks : List Task) : Option String :=
  tasks.findSome? fun t => match t.outcome? with
    | some (.cancelled message) => some message
    | _ => none

/-- The names of the calls that failed, with their faults. -/
def failures (tasks : List Task) : List (String × Fault) :=
  tasks.filterMap fun t => match t.outcome? with
    | some (.fault f) => some (t.call.name, f)
    | _ => none

/-- The values of the calls, by placeholder. -/
def valuesOf (tasks : List Task) : List (String × String) :=
  tasks.filterMap fun t => match t.outcome? with
    | some (.value v) => some (t.call.token, resolvedText v)
    | _ => none

/-- The first call whose value contains the delimiter of placeholders. -/
def firstTainted (tasks : List Task) : Option String :=
  tasks.findSome? fun t => match t.outcome? with
    | some (.value v) => if Deferred.tainted (resolvedText v).toList then some t.call.name else none
    | _ => none

/-- The result when every task has finished by itself. -/
def ofTasks (tasks : List Task) : Settled :=
  match firstCancelled tasks, failures tasks, firstTainted tasks with
  | some message, _, _ => .cancelled message
  | none, f :: more, _ => .failed (f :: more)
  | none, [], some name => .tainted name
  | none, [], none => .values (valuesOf tasks)

end Settled

/-- To replace an entry of a list by one that looks the same changes nothing that is seen. -/
theorem map_set_of_eq {α β : Type} {f : α → β} {l : List α} {i : Nat} {a b : α}
    (ha : l[i]? = some a) (hf : f b = f a) : (l.set i b).map f = l.map f := by
  obtain ⟨hi, rfl⟩ := List.getElem?_eq_some_iff.mp ha
  rw [List.map_set, hf, ← List.map_set, List.set_getElem_self hi]

namespace Settling

def ofPending (calls : List Pending) : Settling := ⟨calls.map fun c => { call := c }, none⟩

theorem call_ofPending (calls : List Pending) : (ofPending calls).tasks.map (·.call) = calls := by
  rw [ofPending, List.map_map]
  exact List.map_id calls

def allFinished (s : Settling) : Bool := s.tasks.all (·.isFinished)

/-- One step of each task, in order. -/
def stepAll (scope : Option Nat) : List Task → Activity → List Task × Activity
  | [], a => ([], a)
  | t :: more, a =>
    let (t, a) := t.step scope a
    let (more, a) := stepAll scope more a
    (t :: more, a)

def round (scope : Option Nat) (s : Settling) (a : Activity) : Settling × Activity :=
  let (tasks, a) := stepAll scope s.tasks a
  ({ s with tasks }, a)

/-- The deadline has passed: stop what is unfinished, if anything is. -/
def expire (s : Settling) : Settling :=
  match s.ending with
  | some _ => s
  | none =>
    match s.tasks.filter (!·.isFinished) with
    | [] => s
    | unfinished =>
      ⟨s.tasks.map Task.cancel, some (.deadline (unfinished.map (·.call.name)))⟩

/-- The wait itself is cancelled, and every unfinished task with it. -/
def cancel (s : Settling) : Settling := ⟨s.tasks.map Task.cancel, some .cancelled⟩

/-- The result, once every task has finished. -/
def result? (s : Settling) : Option Settled :=
  if s.allFinished then
    some (match s.ending with
      | none => .ofTasks s.tasks
      | some (.deadline stalled) => .timedOut stalled
      | some .cancelled => .cancelled "")
  else none

/-- Whether a task has started that will never finish. -/
def anyHanging (s : Settling) : Bool :=
  s.tasks.any fun t => match t.state with
    | .hanging => true
    | _ => false

/-- Whether only tasks that will never finish are left. -/
def onlyHanging (s : Settling) : Bool :=
  s.tasks.all fun t => match t.state with
    | .hanging | .finished _ => true
    | _ => false

end Settling

/-- How long to wait: a text for messages, and whether no time is given at all. -/
structure Deadline where
  text : String
  immediate : Bool
  deriving DecidableEq, Repr

/-- The deadline that a number of seconds means. -/
def Deadline.ofValue (v : Value) : Deadline :=
  let immediate := match v with
    | .int n => n ≤ 0
    | .bool b => !b
    | .float x => x.isZero || x.isNegative
    | _ => false
  ⟨v.text, immediate⟩

/-- Whether a wait is over: a deadline without time lets every task make two steps; any other
passes when only tasks that never finish are left. -/
def Deadline.hasPassed (d : Deadline) (rounds : Nat) (s : Settling) : Bool :=
  if d.immediate then 2 ≤ rounds else s.onlyHanging

end DeferredViews.Deferred
