import DeferredViews.Proofs.Rounds
import DeferredViews.View.Awaited

/-!
# What a wait comes to

A wait hands its calls to tasks that finish in any order, and only afterwards looks at what they
came to, in the order in which the calls were registered. What it then tells, and which of several
things that went wrong it tells, is a function of these outcomes alone.
-/
namespace DeferredViews.View

open Deferred

/-- The value of an outcome as text; what is no value has none. -/
def outcomeText : Option Outcome → String
  | some (.value v) => resolvedText v
  | _ => ""

/-- The message of a call that cancelled itself. -/
def ownCancellation? : Pending × Option Outcome → Option String
  | (_, some (.cancelled message)) => some message
  | _ => none

/-- The failure of a call that failed. -/
def ownFailure? : Pending × Option Outcome → Option Failure
  | (call, some (.fault f)) => some (.helper call.name f.message (some f))
  | _ => none

/-- Whether the text of a call's value contains the delimiter of placeholders. -/
def isUnsafe (c : Pending × Option Outcome) : Bool := tainted (outcomeText c.2).toList

/-- What a wait comes to, from the calls in registration order with what each came to. The first
unfinished call counts before any cancellation, that before any failure, and that before any value
that is not safe. -/
def verdict (deadline : Option Deadline) (calls : List (Pending × Option Outcome)) :
    Except Stop (List (String × String)) :=
  match calls.find? (·.2.isNone) with
  | some stalled =>
    .error (.failure (.helper stalled.1.name ("timed out after " ++ timeText deadline ++ "s") none))
  | none =>
    match calls.findSome? ownCancellation? with
    | some message => .error (.interrupt (.cancelled message))
    | none =>
      match calls.findSome? ownFailure? with
      | some failure => .error (.failure failure)
      | none =>
        match calls.find? isUnsafe with
        | some c =>
          .error (.failure (.helper c.1.name "resolved value contains the placeholder delimiter"
            none))
        | none => .ok (calls.map fun c => (c.1.token, outcomeText c.2))

theorem firstCancelled_eq (w : Settling) :
    Settled.firstCancelled w.tasks = w.outcomes.findSome? ownCancellation? := by
  rw [Settling.outcomes, List.findSome?_map, Settled.firstCancelled]
  congr 1
  funext t
  show _ = ownCancellation? (t.call, t.outcome?)
  cases t.outcome? with
  | none => rfl
  | some o => cases o <;> rfl

theorem failures_head?_eq (w : Settling) :
    (Settled.failures w.tasks).head?.map (fun f => Failure.helper f.1 f.2.message (some f.2)) =
      w.outcomes.findSome? ownFailure? := by
  rw [Settling.outcomes, List.findSome?_map, Settled.failures, List.head?_filterMap,
    List.map_findSome?]
  congr 1
  funext t
  show _ = ownFailure? (t.call, t.outcome?)
  dsimp only [Function.comp_apply]
  cases t.outcome? with
  | none => rfl
  | some o => cases o <;> rfl

theorem firstTainted_eq (w : Settling) :
    Settled.firstTainted w.tasks = (w.outcomes.find? isUnsafe).map (·.1.name) := by
  rw [Settling.outcomes, Settled.firstTainted, List.find?_map, Option.map_map]
  induction w.tasks with
  | nil => rfl
  | cons t more ih =>
    have hnil : tainted "".toList = false := rfl
    rw [List.findSome?_cons, List.find?_cons, ih]
    dsimp only [Function.comp_apply, isUnsafe]
    cases t.outcome? with
    | none => simp only [outcomeText, hnil]
    | some o =>
      cases o with
      | value v =>
        simp only [outcomeText]
        cases tainted (resolvedText v).toList <;> rfl
      | fault f => simp only [outcomeText, hnil]
      | cancelled message => simp only [outcomeText, hnil]

/-- Where every call has a value, the values are those of the calls in order. -/
theorem valuesOf_eq {w : Settling} (hfinished : w.outcomes.find? (·.2.isNone) = none)
    (hcancelled : w.outcomes.findSome? ownCancellation? = none)
    (hfailed : w.outcomes.findSome? ownFailure? = none) :
    Settled.valuesOf w.tasks = w.outcomes.map fun c => (c.1.token, outcomeText c.2) := by
  rw [Settling.outcomes] at hfinished hcancelled hfailed ⊢
  rw [Settled.valuesOf, List.map_map]
  generalize w.tasks = tasks at hfinished hcancelled hfailed ⊢
  induction tasks with
  | nil => rfl
  | cons t more ih =>
    rw [List.map_cons, List.find?_cons] at hfinished
    rw [List.map_cons, List.findSome?_cons] at hcancelled hfailed
    dsimp only at hfinished
    rw [List.filterMap_cons, List.map_cons]
    dsimp only [Function.comp_apply]
    cases ho : t.outcome? with
    | none =>
      rw [ho] at hfinished
      cases hfinished
    | some o =>
      rw [ho] at hfinished hcancelled hfailed
      cases o with
      | value v => exact congrArg _ (ih hfinished hcancelled hfailed)
      | fault f => cases hfailed
      | cancelled message => cases hcancelled

theorem find?_outcomes_of_allFinished {w : Settling} (h : w.allFinished = true) :
    w.outcomes.find? (·.2.isNone) = none := by
  rw [List.find?_eq_none]
  intro c hc
  obtain ⟨t, ht, rfl⟩ := List.mem_map.mp hc
  have hfinished : t.isFinished = true := List.all_eq_true.mp h t ht
  rw [Task.isFinished] at hfinished
  simp [Option.isNone_eq_false_iff.mpr hfinished]

/-- Once every task has finished by itself, the result is the verdict. -/
theorem result_ofTasks (deadline : Option Deadline) {w : Settling} (h : w.allFinished = true) :
    (Settled.ofTasks w.tasks).result deadline = verdict deadline w.outcomes := by
  have hfinished := find?_outcomes_of_allFinished h
  have hcancelled := firstCancelled_eq w
  have hfailed := failures_head?_eq w
  have htainted := firstTainted_eq w
  rw [verdict, hfinished, Settled.ofTasks, hcancelled]
  cases hc : w.outcomes.findSome? ownCancellation? with
  | some message => rfl
  | none =>
    rw [← hfailed]
    cases hf : Settled.failures w.tasks with
    | cons f more => rfl
    | nil =>
      rw [hf] at hfailed
      rw [htainted]
      cases hu : w.outcomes.find? isUnsafe with
      | some c => rfl
      | none =>
        have hvalues := valuesOf_eq hfinished hc hfailed.symm
        show Except.ok (Settled.valuesOf w.tasks) = _
        rw [hvalues]
        rfl

/-- A helper that fails without arguments. -/
def loader : Helper :=
  { name := "load", doc := none, isTask := true, pauses := 0
    body := fun call =>
      if call.args.isEmpty then .fault (.raised .value (some "late")) else .value (.int 1) }

/-- Two calls, of which the first one fails. -/
def twoCalls : List Pending := [⟨"t0", "load", 0, [], []⟩, ⟨"t1", "load", 0, [.null], []⟩]

end DeferredViews.View
