import DeferredViews.Proofs.Opening

/-!
# Running a page

A page is run, then its layout over the options with the content as `body`, with nothing in
between. The functions that templates call answer on the spot or are put off; the calls put off on
the way are taken at the end.
-/
namespace DeferredViews.Deferred

/-- Put off a call to the registry in scope. -/
theorem callNow_deferred (q : Nat) (name : String) (i : Nat) (args : List Value) (kwargs : Locals)
    (a : Activity) :
    callNow (some q) (.deferred name i) args kwargs a =
      (.ok (.markup (a.register q name i args kwargs).1), (a.register q name i args kwargs).2) :=
  rfl

/-- To call a helper on the spot is to start it and to take its answer. -/
theorem callNow_immediate (scope : Option Nat) (i : Nat) (args : List Value) (kwargs : Locals)
    (a : Activity) :
    callNow scope (.immediate i) args kwargs a =
      match a.helpers[i]? with
      | none => (.ok .null, a)
      | some h =>
        if h.isTask then (.ok (.str ("<coroutine object " ++ h.name ++ ">")), a)
        else
          match answer scope (h.body ⟨args, kwargs, (a.start i h).1⟩) (a.start i h).2 with
          | (.value v, a) => (.ok v, a)
          | (.interrupt e, a) => (.error e, a)
          | (.never, a) => (.ok .null, a) := by
  rw [callNow, bind_apply, get_apply]
  dsimp only
  cases a.helpers[i]? with
  | none => rfl
  | some h =>
    dsimp only
    split
    · rfl
    · rw [bind_apply, get_apply]
      dsimp only
      rw [bind_apply, set_apply]
      dsimp only
      generalize answer scope (h.body ⟨args, kwargs, (a.start i h).1⟩) (a.start i h).2 = x
      obtain ⟨result, b⟩ := x
      cases result <;> rfl

end DeferredViews.Deferred

namespace DeferredViews.View

open Deferred

/-- The text of a page in its layout. -/
def pageText (r : Request) (registry : Nat) (layout : Option Wrapping) (page : Compiled) :
    Work String := do
  let content ← execute r registry page r.path
  match layout with
  | none => pure content
  | some l => do
    modify (·.setOption r.options "body" (.markup content))
    execute r registry l.compiled l.name

/-- Take the calls that were put off, and wait for them if there are any. -/
def closePage (r : Request) (registry : Nat) (rendered : String) : Work Stage := do
  let s ← get
  let (calls, activity) := s.activity.takePending registry
  set { s with activity }
  if calls.isEmpty then return .ended (.ok (← complete r registry rendered []))
  else
    discard (orFault (deadlineOf (s.engine r.engine).timeout))
    return .settling registry rendered 0 (.ofPending calls)

theorem runPage_eq (r : Request) (registry : Nat) (layout : Option Wrapping) (page : Compiled) :
    runPage r registry layout page =
      (pageText r registry layout page >>= closePage r registry) := by
  rw [pageText, bind_assoc]
  cases layout with
  | none => rfl
  | some l =>
    rw [runPage]
    refine bind_congr fun content => ?_
    rw [bind_assoc]
    rfl

/-- Where a part of a render leads after another one. -/
theorem after_bind_apply {α : Type} (x : Work α) (f : α → Work Stage) (s : Site) :
    Stage.after ((x >>= f) s) =
      match x s with
      | (.ok a, t) => Stage.after (f a t)
      | (.error e, t) => (.ended (.error e), t) := by
  rw [bind_apply]
  generalize x s = y
  obtain ⟨_ | a, t⟩ := y <;> rfl

theorem execute_apply (r : Request) (registry : Nat) (c : Compiled) (name : String) (s : Site) :
    execute r registry c name s =
      match c.run (some registry) (s.optionsAt r.options) s with
      | (.ok out, s) => (.ok out, s)
      | (.error (.fault f), s) => (.error (.failure (.template name f.message (some f))), s)
      | (.error (.cancelled message), s) => (.error (.interrupt (.cancelled message)), s) := by
  have hrun : (liftM (c.run (some registry) (s.optionsAt r.options)).run :
      Work (Except Interrupt String)) s =
      (.ok (c.run (some registry) (s.optionsAt r.options) s).1,
        (c.run (some registry) (s.optionsAt r.options) s).2) := rfl
  rw [execute, bind_apply, get_apply]
  dsimp only
  rw [bind_apply, hrun]
  generalize c.run (some registry) (s.optionsAt r.options) s = x
  obtain ⟨_ | out, t⟩ := x
  · next i => cases i <;> rfl
  · rfl

/-- Where taking the calls leads without any. -/
theorem closePage_nil (r : Request) {registry : Nat} (rendered : String) {s : Site}
    (h : (s.activity.registry registry).pending = []) :
    ∃ log, closePage r registry rendered s =
      (.ok (.ended (.ok rendered)),
        { s with activity := (s.activity.takePending registry).2, log }) := by
  have hcalls : (s.activity.takePending registry).1.isEmpty = true := by
    rw [List.isEmpty_iff]
    exact h
  obtain ⟨log, hlog⟩ := complete_site r registry rendered []
    { s with activity := (s.activity.takePending registry).2 }
  have hpage := complete_nil r registry rendered
    { s with activity := (s.activity.takePending registry).2 }
  refine ⟨log, ?_⟩
  rw [closePage, bind_apply, get_apply]
  dsimp only
  rw [bind_apply, set_apply]
  dsimp only
  rw [if_pos hcalls, bind_apply]
  revert hlog hpage
  generalize complete r registry rendered [] _ = x
  obtain ⟨result, t⟩ := x
  intro hlog hpage
  dsimp only at hlog hpage
  rw [hlog, hpage]
  rfl

/-- Where taking the calls leads with some, when the timeout is well formed. -/
theorem closePage_cons (r : Request) {registry : Nat} (rendered : String) {s : Site}
    (h : (s.activity.registry registry).pending ≠ []) :
    closePage r registry rendered s =
      match deadlineOf (s.engine r.engine).timeout with
      | .ok _ =>
        (.ok (.settling registry rendered 0 (.ofPending (s.activity.registry registry).pending)),
          { s with activity := (s.activity.takePending registry).2 })
      | .error f =>
        (.error (.fault f), { s with activity := (s.activity.takePending registry).2 }) := by
  have hcalls : ¬ (s.activity.takePending registry).1.isEmpty = true := by
    rw [List.isEmpty_iff]
    exact h
  rw [closePage, bind_apply, get_apply]
  dsimp only
  rw [bind_apply, set_apply]
  dsimp only
  rw [if_neg hcalls]
  cases deadlineOf (s.engine r.engine).timeout <;> rfl

/-- Where running a page leads: the text fails, or it is the page as no call was put off, or the
calls that were put off are waited for unless the timeout is malformed. -/
theorem after_runPage_cases (r : Request) (registry : Nat) (layout : Option Wrapping)
    (page : Compiled) (s : Site) :
    (∃ e t, pageText r registry layout page s = (.error e, t) ∧
      Stage.after (runPage r registry layout page s) = (.ended (.error e), t)) ∨
    (∃ html t log, pageText r registry layout page s = (.ok html, t) ∧
      (t.activity.registry registry).pending = [] ∧
      Stage.after (runPage r registry layout page s) = (.ended (.ok html),
        { t with activity := (t.activity.takePending registry).2, log })) ∨
    (∃ html t f, pageText r registry layout page s = (.ok html, t) ∧
      (t.activity.registry registry).pending ≠ [] ∧
      deadlineOf (t.engine r.engine).timeout = .error f ∧
      Stage.after (runPage r registry layout page s) = (.ended (.error (.fault f)),
        { t with activity := (t.activity.takePending registry).2 })) ∨
    (∃ html t deadline, pageText r registry layout page s = (.ok html, t) ∧
      (t.activity.registry registry).pending ≠ [] ∧
      deadlineOf (t.engine r.engine).timeout = .ok deadline ∧
      Stage.after (runPage r registry layout page s) =
        (.settling registry html 0 (.ofPending (t.activity.registry registry).pending),
          { t with activity := (t.activity.takePending registry).2 })) := by
  rw [runPage_eq, after_bind_apply]
  generalize pageText r registry layout page s = x
  obtain ⟨result, t⟩ := x
  cases result with
  | error e => exact .inl ⟨e, t, rfl, rfl⟩
  | ok html =>
    dsimp only
    by_cases hpending : (t.activity.registry registry).pending = []
    · obtain ⟨log, hclose⟩ := closePage_nil r html hpending
      rw [hclose]
      exact .inr (.inl ⟨html, t, log, rfl, hpending, rfl⟩)
    · rw [closePage_cons r html hpending]
      cases hdeadline : deadlineOf (t.engine r.engine).timeout with
      | error f => exact .inr (.inr (.inl ⟨html, t, f, rfl, hpending, hdeadline, rfl⟩))
      | ok deadline =>
        exact .inr (.inr (.inr ⟨html, t, deadline, rfl, hpending, hdeadline, rfl⟩))

end DeferredViews.View
