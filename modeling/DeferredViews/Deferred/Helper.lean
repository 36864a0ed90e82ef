import DeferredViews.Fault

/-!
# Helpers

A helper is a function that templates call. It answers with a value or a fault, may pause first,
may never finish, and may itself put off another helper's call and build its answer around the
placeholder of that call.
-/
namespace DeferredViews.Deferred

/-- A call of a helper: its arguments and how often the helper was started before. -/
structure Call where
  args : List Value
  kwargs : Locals
  earlier : Nat

/-- What a call comes to. -/
inductive Reply where
  | value (v : Value)
  | fault (f : Fault)
  /-- The call cancels its own task. -/
  | cancelled (message : String)
  /-- The call never finishes. -/
  | hang
  /-- Another helper's call is put off; the answer is made from its placeholder. -/
  | defer (helper : Nat) (args : List Value) (kwargs : Locals) (answer : String → Value)

structure Helper where
  name : String
  doc : Option String
  /-- Whether a call is a task of its own, which may pause. -/
  isTask : Bool
  /-- How often a call lets other tasks go on before it answers. -/
  pauses : Nat
  body : Call → Reply

end DeferredViews.Deferred
