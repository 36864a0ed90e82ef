import DeferredViews.Proofs.Parts

/-!
# What cancels a render from within

Nothing but a call of a helper can cancel the task of a render from within. A template fails with a
fault unless a call cancels it, and a wait that nobody stops is cancelled only by the answer of one
of its calls.
-/
namespace DeferredViews.Deferred

/-- Helpers whose calls cancel their own tasks with some messages only. -/
def CancelWithin (C : String → Prop) (helpers : List Helper) : Prop :=
  ∀ h ∈ helpers, ∀ call message, h.body call = .cancelled message → C message

variable {C : String → Prop} {scope : Option Nat} {a : Activity} {message : String}

theorem answer_cancelled {reply : Reply}
    (h : (answer scope reply a).1 = .interrupt (.cancelled message)) :
    reply = .cancelled message := by
  cases reply with
  | cancelled other =>
    cases h
    rfl
  | defer i args kwargs wrap =>
    rw [answer] at h
    split at h
    · cases h
    · cases h
  | value v => cases h
  | fault f => cases h
  | hang => cases h

/-- A function that a template calls cancels it only by the answer of a helper. -/
theorem callNow_cancelled (hC : CancelWithin C a.helpers) {f : Callable} {args : List Value}
    {kwargs : Locals} (h : (callNow scope f args kwargs a).1 = .error (.cancelled message)) :
    C message := by
  cases f with
  | deferred name i =>
    cases scope with
    | none => cases h
    | some q => cases h
  | immediate i =>
    rw [callNow_immediate] at h
    cases hhelper : a.helpers[i]? with
    | none =>
      rw [hhelper] at h
      cases h
    | some helper =>
      rw [hhelper] at h
      dsimp only at h
      split at h
      · cases h
      · split at h
        · cases h
        · next e b hanswer =>
          cases h
          have hreply := answer_cancelled (congrArg Prod.fst hanswer)
          exact hC helper (List.mem_of_getElem? hhelper) _ message hreply
        · cases h

/-- The states that a task comes to by itself. -/
def TaskState.Unforced (C : String → Prop) : TaskState → Prop
  | .cancelling _ => False
  | .finished (.cancelled message) => C message
  | _ => True

namespace Task

theorem unforced_conclude {h : Helper} {call : Call}
    (hC : ∀ message, h.body call = .cancelled message → C message) :
    (conclude scope h call a).1.Unforced C := by
  rw [conclude]
  split
  · trivial
  · trivial
  · next message b hanswer => exact hC message (answer_cancelled (congrArg Prod.fst hanswer))
  · trivial

theorem unforced_step (hC : CancelWithin C a.helpers) {t : Task} (h : t.state.Unforced C) :
    (t.step scope a).1.state.Unforced C := by
  rw [step]
  split
  · trivial
  · next helper hhelper =>
    have hbody := hC helper (List.mem_of_getElem? hhelper)
    dsimp only
    rw [advance]
    cases hstate : t.state with
    | ready =>
      dsimp only
      split
      · trivial
      · exact unforced_conclude (hbody _)
    | pausing left call =>
      cases left with
      | zero => exact unforced_conclude (hbody _)
      | succ left => trivial
    | hanging => trivial
    | cancelling hung =>
      rw [hstate] at h
      exact h.elim
    | finished o =>
      rw [hstate] at h
      exact h

end Task

namespace Settling

/-- A wait that nobody has cancelled. Until its deadline its tasks have come where they are by
themselves. -/
structure Unforced (C : String → Prop) (w : Settling) : Prop where
  ending : w.ending ≠ some .cancelled
  tasks : w.ending = none → ∀ t ∈ w.tasks, t.state.Unforced C

theorem unforced_ofPending (calls : List Pending) : (ofPending calls).Unforced C := by
  refine ⟨nofun, ?_⟩
  intro _ t ht
  obtain ⟨c, -, rfl⟩ := List.mem_map.mp ht
  trivial

theorem unforced_stepAll {tasks : List Task} (hC : CancelWithin C a.helpers)
    (h : ∀ t ∈ tasks, t.state.Unforced C) :
    ∀ t ∈ (stepAll scope tasks a).1, t.state.Unforced C := by
  induction tasks generalizing a with
  | nil => exact fun _ => nofun
  | cons t more ih =>
    have hhelpers := Task.helpers_step scope t a
    intro u hu
    rw [stepAll] at hu
    rcases List.mem_cons.mp hu with rfl | hu
    · exact Task.unforced_step hC (h t List.mem_cons_self)
    · exact ih (hhelpers.symm ▸ hC) (fun v hv => h v (List.mem_cons_of_mem _ hv)) u hu

theorem Unforced.expire {w : Settling} (h : w.Unforced C) : w.expire.Unforced C := by
  rw [Settling.expire]
  split
  · exact h
  · split
    · exact h
    · constructor
      · intro hcancelled
        cases hcancelled
      · intro hopen
        cases hopen

theorem Unforced.advance {w : Settling} (h : w.Unforced C) (hC : CancelWithin C a.helpers)
    (scope : Option Nat) (deadline : Option Deadline) (rounds : Nat) :
    (w.advance scope deadline rounds a).1.Unforced C := by
  have hround : (w.round scope a).1.Unforced C :=
    ⟨h.ending, fun hopen => unforced_stepAll hC (h.tasks hopen)⟩
  rw [Settling.advance]
  dsimp only
  split
  · exact hround.expire
  · exact hround

theorem firstCancelled_unforced {tasks : List Task} (h : ∀ t ∈ tasks, t.state.Unforced C)
    (hfirst : Settled.firstCancelled tasks = some message) : C message := by
  obtain ⟨t, ht, hmessage⟩ := List.exists_of_findSome?_eq_some hfirst
  have hstate := h t ht
  split at hmessage
  · next other houtcome =>
    cases hmessage
    rw [Task.state_of_outcome? houtcome] at hstate
    exact hstate
  · cases hmessage

/-- Such a wait is cancelled only by the answer of one of its calls. -/
theorem Unforced.result?_cancelled {w : Settling} (h : w.Unforced C)
    (hresult : w.result? = some (.cancelled message)) : C message := by
  rw [result?] at hresult
  split at hresult
  · cases hending : w.ending with
    | none =>
      rw [hending] at hresult
      have htasks : Settled.ofTasks w.tasks = .cancelled message := Option.some.inj hresult
      rw [Settled.ofTasks] at htasks
      split at htasks
      · next other hfirst =>
        cases htasks
        exact firstCancelled_unforced (h.tasks hending) hfirst
      all_goals cases htasks
    | some ending =>
      cases ending with
      | cancelled => exact absurd hending h.ending
      | deadline stalled =>
        rw [hending] at hresult
        cases hresult
  · cases hresult

end Settling
end DeferredViews.Deferred

namespace DeferredViews.View

open Deferred Template

variable {C : String → Prop} {s : Site}

theorem helpers_callNow (scope : Option Nat) (f : Callable) (args : List Value) (kwargs : Locals)
    (a : Activity) : (callNow scope f args kwargs a).2.helpers = a.helpers :=
  callNow_keeps (P := fun b => b.helpers = a.helpers)
    (fun b name i args kwargs hb => (helpers_putOff b scope name i args kwargs).trans hb)
    (fun _ _ _ hb => hb) f args kwargs rfl

/-- Why a template has no text: a fault, or the cancellation of a helper. -/
def Stop.OfTemplate (C : String → Prop) (e : Stop) : Prop :=
  (∃ name f, e = .failure (.template name (Fault.message f) (some f))) ∨
    ∃ message, C message ∧ e = .interrupt (.cancelled message)

/-- Why a wait has no values: a helper is blamed, or has cancelled it. -/
def Stop.OfHelper (C : String → Prop) (e : Stop) : Prop :=
  (∃ name message cause, e = .failure (.helper name message cause)) ∨
    ∃ message, C message ∧ e = .interrupt (.cancelled message)

theorem run_cancelled (hC : CancelWithin C s.activity.helpers) (c : Compiled) (q : Nat)
    (locals : Locals) {message : String}
    (h : (c.run (some q) locals s).1 = .error (.cancelled message)) : C message := by
  have hends : ∀ e, (c.run (some q) locals s).1 = .error e →
      ∀ message, e = .cancelled message → C message := by
    refine (run_ends (P := fun t => t.activity.helpers = s.activity.helpers)
      (fun f message => nofun) ?_ ?_ c locals rfl).2
    · intro f args kwargs t ht
      refine ⟨(helpers_callNow (some q) f args kwargs t.activity).trans ht, ?_⟩
      rintro e he message rfl
      exact callNow_cancelled (ht ▸ hC) he
    · intro e name t ht
      rw [activity_loadFor]
      exact ht
  exact hends _ h message rfl

theorem execute_error {r : Request} {q : Nat} {c : Compiled} {name : String} {e : Stop}
    (hC : CancelWithin C s.activity.helpers) (h : (execute r q c name s).1 = .error e) :
    e.OfTemplate C := by
  have hcancelled : ∀ message, (c.run (some q) (s.optionsAt r.options) s).1 =
      .error (.cancelled message) → C message :=
    fun _ => run_cancelled hC c q (s.optionsAt r.options)
  rw [execute_apply] at h
  revert h hcancelled
  generalize c.run (some q) (s.optionsAt r.options) s = x
  obtain ⟨result, t⟩ := x
  intro h hcancelled
  cases result with
  | ok out => cases h
  | error i =>
    cases i with
    | fault f =>
      cases h
      exact .inl ⟨name, f, rfl⟩
    | cancelled message =>
      cases h
      exact .inr ⟨message, hcancelled message rfl, rfl⟩

theorem helpers_execute (r : Request) (q : Nat) (c : Compiled) (name : String) (s : Site) :
    (execute r q c name s).2.activity.helpers = s.activity.helpers := by
  refine execute_keeps (P := fun t => t.activity.helpers = s.activity.helpers) ?_ ?_ r c name rfl
  · exact fun f args kwargs t ht => (helpers_callNow (some q) f args kwargs t.activity).trans ht
  · intro e name t ht
    rw [activity_loadFor]
    exact ht

theorem pageText_error {r : Request} {q : Nat} {layout : Option Wrapping} {page : Compiled}
    {e : Stop} (hC : CancelWithin C s.activity.helpers)
    (h : (pageText r q layout page s).1 = .error e) : e.OfTemplate C := by
  have hcontent : ∀ e, (execute r q page r.path s).1 = .error e → e.OfTemplate C :=
    fun _ => execute_error hC
  have hhelpers := helpers_execute r q page r.path s
  rw [pageText, bind_apply] at h
  revert h hcontent hhelpers
  generalize execute r q page r.path s = x
  obtain ⟨result, t⟩ := x
  intro h hcontent hhelpers
  cases result with
  | error e' =>
    cases h
    exact hcontent e rfl
  | ok content =>
    cases layout with
    | none => cases h
    | some l =>
      have hbody : CancelWithin C
          (t.setOption r.options "body" (.markup content)).activity.helpers :=
        hhelpers.symm ▸ hC
      dsimp only at h
      rw [bind_apply] at h
      exact execute_error hbody h

variable {r : Request} {q : Nat} {rendered : String}

theorem result_error {settled : Settled} {deadline : Option Deadline} {e : Stop}
    (hC : ∀ message, settled = .cancelled message → C message)
    (h : settled.result deadline = .error e) : e.OfHelper C := by
  cases settled with
  | values vs => cases h
  | cancelled message =>
    cases h
    exact .inr ⟨message, hC message rfl, rfl⟩
  | timedOut stalled =>
    cases h
    exact .inl ⟨_, _, _, rfl⟩
  | failed failures =>
    cases failures with
    | nil => cases h
    | cons failure more =>
      cases h
      exact .inl ⟨_, _, _, rfl⟩
  | tainted name =>
    cases h
    exact .inl ⟨_, _, _, rfl⟩

theorem endWith_error {result : Except Stop (List (String × String))} {e : Stop}
    (hresult : ∀ e, result = .error e → e.OfHelper C) (h : endWith r q rendered s result = .error e) :
    e.OfHelper C := by
  cases result with
  | error stop =>
    cases h
    exact hresult e rfl
  | ok values =>
    rw [endWith] at h
    by_cases hvalues : values = []
    · rw [hvalues, complete_nil] at h
      cases h
    · rw [complete_eq r q rendered hvalues] at h
      split at h
      · cases h
        exact .inl ⟨_, _, _, rfl⟩
      · cases h

/-- How a wait goes on that nobody has cancelled. -/
theorem step_settling_unforced {rounds : Nat} {w : Settling} (hw : w.Unforced C)
    (hC : CancelWithin C s.activity.helpers) :
    (∃ v activity, Stage.step r (.settling q rendered rounds w) s =
        (.settling q rendered (rounds + 1) v, { s with activity }) ∧ v.Unforced C) ∨
      ∃ x, (Stage.step r (.settling q rendered rounds w) s).1 = .ended x ∧
        ∀ e, x = .error e → e.OfHelper C ∨
          ∃ f, deadlineOf (s.engine r.engine).timeout = .error f ∧ e = .fault f := by
  cases hdeadline : deadlineOf (s.engine r.engine).timeout with
  | error f =>
    refine .inr ⟨_, congrArg Prod.fst (step_settling_error r rendered q rounds w hdeadline), ?_⟩
    rintro e ⟨⟩
    exact .inr ⟨f, rfl, rfl⟩
  | ok deadline =>
    have hadvance := hw.advance hC (some q) deadline rounds
    cases hresult : (w.advance (some q) deadline rounds s.activity).1.result? with
    | none =>
      exact .inl ⟨_, _, step_settling_none r rendered q rounds w hdeadline hresult, hadvance⟩
    | some settled =>
      obtain ⟨log, hstep⟩ := step_settling_some r rendered q rounds w hdeadline hresult
      refine .inr ⟨_, congrArg Prod.fst hstep, ?_⟩
      intro e he
      refine .inl (endWith_error (fun e he => result_error ?_ he) he)
      rintro message rfl
      exact hadvance.result?_cancelled hresult

end DeferredViews.View
