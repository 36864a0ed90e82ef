import DeferredViews.Proofs.Running

/-!
# Renders that cannot tell their sites apart

While it runs its page and waits for helpers, a render looks at the engines, the options, the
helpers with how often each was started, and the registry of its own. Two renders for which these
are the same end alike, whatever the caches, the log and the other registries of their sites hold.
-/
namespace DeferredViews.Deferred

/-- Two activities that are the same to whoever holds registry `q` of the first or `p` of the
second. -/
structure Peers (q p : Nat) (a b : Activity) : Prop where
  helpers : a.helpers = b.helpers
  starts : a.starts = b.starts
  record : a.registry q = b.registry p
  room : q < a.registries.length ∧ p < b.registries.length

namespace Peers

variable {q p : Nat} {a b : Activity}

theorem setRegistry (h : Peers q p a b) (value : Registry) :
    Peers q p (a.setRegistry q value) (b.setRegistry p value) := by
  have ha := a.registry_setRegistry_self q value h.room.1
  have hb := b.registry_setRegistry_self p value h.room.2
  refine { h with record := ha.trans hb.symm, room := ?_ }
  simpa [Activity.setRegistry] using h.room

theorem start (h : Peers q p a b) (i : Nat) (helper : Helper) :
    (a.start i helper).1 = (b.start i helper).1 ∧
      Peers q p (a.start i helper).2 (b.start i helper).2 := by
  refine ⟨?_, { h with starts := ?_ }⟩
  · show a.starts.count i = b.starts.count i
    rw [h.starts]
  · show a.starts ++ [i] = b.starts ++ [i]
    rw [h.starts]

theorem record_event (h : Peers q p a b) (e : Event) : Peers q p (a.record e) (b.record e) :=
  { h with }

/-- Both put off a call with the same placeholder. -/
theorem register (h : Peers q p a b) (name : String) (i : Nat) (args : List Value)
    (kwargs : Locals) :
    (a.register q name i args kwargs).1 = (b.register p name i args kwargs).1 ∧
      Peers q p (a.register q name i args kwargs).2 (b.register p name i args kwargs).2 := by
  rw [Activity.register, Activity.register, h.helpers, h.record]
  exact ⟨rfl, h.setRegistry _⟩

theorem takePending (h : Peers q p a b) :
    (a.takePending q).1 = (b.takePending p).1 ∧
      Peers q p (a.takePending q).2 (b.takePending p).2 := by
  rw [Activity.takePending, Activity.takePending, h.record]
  exact ⟨rfl, h.setRegistry _⟩

theorem answer (h : Peers q p a b) (reply : Reply) :
    (Deferred.answer (some q) reply a).1 = (Deferred.answer (some p) reply b).1 ∧
      Peers q p (Deferred.answer (some q) reply a).2 (Deferred.answer (some p) reply b).2 := by
  cases reply with
  | defer i args kwargs wrap =>
    obtain ⟨htoken, hnext⟩ := h.register "" i args kwargs
    refine ⟨?_, hnext⟩
    show Answer.value (wrap (a.register q "" i args kwargs).1) = _
    rw [htoken]
    rfl
  | _ => exact ⟨rfl, h⟩

/-- A template that calls a function gets the same from both. -/
theorem callNow (h : Peers q p a b) (f : Callable) (args : List Value) (kwargs : Locals) :
    (Deferred.callNow (some q) f args kwargs a).1 = (Deferred.callNow (some p) f args kwargs b).1 ∧
      Peers q p (Deferred.callNow (some q) f args kwargs a).2
        (Deferred.callNow (some p) f args kwargs b).2 := by
  cases f with
  | deferred name i =>
    obtain ⟨htoken, hnext⟩ := h.register name i args kwargs
    rw [callNow_deferred, callNow_deferred, htoken]
    exact ⟨rfl, hnext⟩
  | immediate i =>
    rw [callNow_immediate, callNow_immediate, h.helpers]
    cases b.helpers[i]? with
    | none => exact ⟨rfl, h⟩
    | some helper =>
      obtain ⟨hearlier, hstarted⟩ := h.start i helper
      have hanswer := hstarted.answer (helper.body ⟨args, kwargs, (b.start i helper).1⟩)
      dsimp only
      rw [hearlier]
      split
      · exact ⟨rfl, h⟩
      · revert hanswer
        generalize Deferred.answer (some q) _ _ = x
        generalize Deferred.answer (some p) _ _ = y
        obtain ⟨result, a'⟩ := x
        obtain ⟨result', b'⟩ := y
        rintro ⟨hresult, hnext⟩
        dsimp only at hresult
        subst hresult
        cases result <;> exact ⟨rfl, hnext⟩

theorem conclude (h : Peers q p a b) (helper : Helper) (call : Call) :
    (Task.conclude (some q) helper call a).1 = (Task.conclude (some p) helper call b).1 ∧
      Peers q p (Task.conclude (some q) helper call a).2
        (Task.conclude (some p) helper call b).2 := by
  have hanswer := h.answer (helper.body call)
  rw [Task.conclude, Task.conclude]
  revert hanswer
  generalize Deferred.answer (some q) _ _ = x
  generalize Deferred.answer (some p) _ _ = y
  obtain ⟨result, a'⟩ := x
  obtain ⟨result', b'⟩ := y
  rintro ⟨hresult, hnext⟩
  dsimp only at hresult
  subst hresult
  cases result with
  | value v => exact ⟨rfl, hnext⟩
  | interrupt i => cases i <;> exact ⟨rfl, hnext⟩
  | never => exact ⟨rfl, hnext⟩

theorem advance (h : Peers q p a b) (helper : Helper) (t : Task) :
    (t.advance (some q) helper a).1 = (t.advance (some p) helper b).1 ∧
      Peers q p (t.advance (some q) helper a).2 (t.advance (some p) helper b).2 := by
  rw [Task.advance, Task.advance]
  cases t.state with
  | ready =>
    obtain ⟨hearlier, hstarted⟩ := h.start t.call.helper helper
    dsimp only
    rw [hearlier]
    split
    · exact ⟨rfl, hstarted⟩
    · exact hstarted.conclude helper _
  | pausing left call =>
    cases left with
    | zero => exact (h.record_event _).conclude helper call
    | succ left => exact ⟨rfl, h⟩
  | hanging => exact ⟨rfl, h⟩
  | cancelling hung => cases hung <;> exact ⟨rfl, { h with }⟩
  | finished o => exact ⟨rfl, h⟩

theorem step (h : Peers q p a b) (t : Task) :
    (t.step (some q) a).1 = (t.step (some p) b).1 ∧
      Peers q p (t.step (some q) a).2 (t.step (some p) b).2 := by
  rw [Task.step, Task.step, h.helpers]
  cases b.helpers[t.call.helper]? with
  | none => exact ⟨rfl, h⟩
  | some helper =>
    obtain ⟨hstate, hnext⟩ := h.advance helper t
    dsimp only
    rw [hstate]
    exact ⟨rfl, hnext⟩

theorem stepAll (h : Peers q p a b) (tasks : List Task) :
    (Settling.stepAll (some q) tasks a).1 = (Settling.stepAll (some p) tasks b).1 ∧
      Peers q p (Settling.stepAll (some q) tasks a).2 (Settling.stepAll (some p) tasks b).2 := by
  induction tasks generalizing a b with
  | nil => exact ⟨rfl, h⟩
  | cons t more ih =>
    obtain ⟨htask, hnext⟩ := h.step t
    obtain ⟨htasks, hlast⟩ := ih hnext
    rw [Settling.stepAll, Settling.stepAll]
    dsimp only
    rw [htask, htasks]
    exact ⟨rfl, hlast⟩

/-- A wait makes the same round on both. -/
theorem settling (h : Peers q p a b) (deadline : Option Deadline) (rounds : Nat) (w : Settling) :
    (w.advance (some q) deadline rounds a).1 = (w.advance (some p) deadline rounds b).1 ∧
      Peers q p (w.advance (some q) deadline rounds a).2
        (w.advance (some p) deadline rounds b).2 := by
  obtain ⟨htasks, hnext⟩ := h.stepAll w.tasks
  rw [Settling.advance, Settling.advance, Settling.round, Settling.round]
  dsimp only
  rw [htasks]
  exact ⟨rfl, hnext⟩

end Peers
end DeferredViews.Deferred

namespace DeferredViews.View

open Deferred Template

/-- Two sites that are the same to a render once it has read its templates, where it holds registry
`q` of the first and `p` of the second. -/
structure Site.Peers (q p : Nat) (s t : Site) : Prop where
  engines : ∀ d, (s.engine d).Alike (t.engine d) ∧ (s.engine d).globals = (t.engine d).globals
  options : s.options = t.options
  activity : Deferred.Peers q p s.activity t.activity

namespace Site.Peers

variable {q p : Nat} {s t : Site}

/-- Engines may count and remember. -/
theorem setEngine (h : Site.Peers q p s t) {e : Nat} {d d' : Engine}
    (hd : d.Alike (s.engine e) ∧ d.globals = (s.engine e).globals)
    (hd' : d'.Alike (t.engine e) ∧ d'.globals = (t.engine e).globals) :
    Site.Peers q p (s.setEngine e d) (t.setEngine e d') := by
  refine { h with engines := fun n => ?_ }
  have hs := s.alike_setEngine hd n
  have ht := t.alike_setEngine hd' n
  have hn := h.engines n
  exact ⟨hs.1.trans (hn.1.trans ht.1.symm), hs.2.trans (hn.2.trans ht.2.symm)⟩

theorem optionsAt (h : Site.Peers q p s t) (o : Nat) : s.optionsAt o = t.optionsAt o := by
  rw [Site.optionsAt, Site.optionsAt, h.options]

theorem setOption (h : Site.Peers q p s t) (o : Nat) (name : String) (v : Value) :
    Site.Peers q p (s.setOption o name v) (t.setOption o name v) := by
  refine { h with options := ?_ }
  show s.options.set o _ = t.options.set o _
  rw [h.optionsAt, h.options]

theorem run (h : Site.Peers q p s t) (c : Compiled) (locals : Locals) :
    (c.run (some q) locals s).1 = (c.run (some p) locals t).1 ∧
      Site.Peers q p (c.run (some q) locals s).2 (c.run (some p) locals t).2 := by
  refine run_alike (I := Site.Peers q p) (fun _ _ h => h.engines) ?_ ?_ c locals h
  · exact fun _ _ _ _ _ h hd hd' => h.setEngine hd hd'
  · intro f args kwargs s t h
    obtain ⟨hresult, hactivity⟩ := h.activity.callNow f args kwargs
    exact ⟨hresult, { h with activity := hactivity }⟩

theorem execute (h : Site.Peers q p s t) (r : Request) (c : Compiled) (name : String) :
    (View.execute r q c name s).1 = (View.execute r p c name t).1 ∧
      Site.Peers q p (View.execute r q c name s).2 (View.execute r p c name t).2 := by
  refine execute_of_run (J := Site.Peers q p) name ?_
  rw [← h.optionsAt]
  exact h.run c (s.optionsAt r.options)

theorem pageText (h : Site.Peers q p s t) (r : Request) (layout : Option Wrapping)
    (page : Compiled) :
    (View.pageText r q layout page s).1 = (View.pageText r p layout page t).1 ∧
      Site.Peers q p (View.pageText r q layout page s).2 (View.pageText r p layout page t).2 := by
  obtain ⟨hresult, hnext⟩ := h.execute r page r.path
  rw [View.pageText, View.pageText, bind_apply, bind_apply]
  revert hresult hnext
  generalize View.execute r q page r.path s = x
  generalize View.execute r p page r.path t = y
  obtain ⟨result, s'⟩ := x
  obtain ⟨result', t'⟩ := y
  intro hresult hnext
  dsimp only at hresult
  subst hresult
  cases result with
  | error e => exact ⟨rfl, hnext⟩
  | ok content =>
    cases layout with
    | none => exact ⟨rfl, hnext⟩
    | some l =>
      exact (hnext.setOption r.options "body" (.markup content)).execute r l.compiled l.name

end Site.Peers

section Rounds

variable (r : Request) (rendered : String) (q rounds : Nat) (w : Settling) {s : Site}
  {deadline : Option Deadline}

theorem step_settling_error {f : Fault}
    (hdeadline : deadlineOf (s.engine r.engine).timeout = .error f) :
    Stage.step r (.settling q rendered rounds w) s = (.ended (.error (.fault f)), s) := by
  rw [Stage.step_eq, Stage.work, settle_error r q rendered rounds w hdeadline]
  rfl

theorem step_settling_none (hdeadline : deadlineOf (s.engine r.engine).timeout = .ok deadline)
    (hresult : (w.advance (some q) deadline rounds s.activity).1.result? = none) :
    Stage.step r (.settling q rendered rounds w) s =
      (.settling q rendered (rounds + 1) (w.advance (some q) deadline rounds s.activity).1,
        { s with activity := (w.advance (some q) deadline rounds s.activity).2 }) := by
  rw [Stage.step_eq, Stage.work, settle_apply r q rendered rounds w hdeadline, hresult]
  rfl

theorem step_settling_some (hdeadline : deadlineOf (s.engine r.engine).timeout = .ok deadline)
    {settled : Settled}
    (hresult : (w.advance (some q) deadline rounds s.activity).1.result? = some settled) :
    ∃ log, Stage.step r (.settling q rendered rounds w) s =
      (.ended (endWith r q rendered
        { s with activity := (w.advance (some q) deadline rounds s.activity).2 }
        (settled.result deadline)),
        { s with activity := (w.advance (some q) deadline rounds s.activity).2, log }) := by
  obtain ⟨hend, log, hsite⟩ := conclude_apply r q rendered deadline settled
    { s with activity := (w.advance (some q) deadline rounds s.activity).2 }
  refine ⟨log, ?_⟩
  rw [Stage.step_eq, Stage.work, settle_apply r q rendered rounds w hdeadline, hresult, ← hend]
  dsimp only
  revert hsite
  generalize conclude r q rendered deadline settled _ = x
  obtain ⟨result, t⟩ := x
  rintro rfl
  cases result <;> rfl

/-- Whatever the deadline is, waiting only changes what helpers do and the records. -/
theorem step_settling_site :
    (∃ x activity log,
      Stage.step r (.settling q rendered rounds w) s = (.ended x, { s with activity, log })) ∨
    ∃ v activity,
      Stage.step r (.settling q rendered rounds w) s =
        (.settling q rendered (rounds + 1) v, { s with activity }) := by
  cases hdeadline : deadlineOf (s.engine r.engine).timeout with
  | error f =>
    exact .inl ⟨_, s.activity, s.log, step_settling_error r rendered q rounds w hdeadline⟩
  | ok deadline =>
    cases hresult : (w.advance (some q) deadline rounds s.activity).1.result? with
    | none => exact .inr ⟨_, _, step_settling_none r rendered q rounds w hdeadline hresult⟩
    | some settled =>
      obtain ⟨log, hstep⟩ := step_settling_some r rendered q rounds w hdeadline hresult
      exact .inl ⟨_, _, log, hstep⟩

end Rounds

/-- Two renders that are equally far: both have ended alike, or both wait with the same page for the
same calls. -/
inductive Level (q p : Nat) : Stage × Site → Stage × Site → Prop
  | ended (x : Except Stop String) (s t : Site) : Level q p (.ended x, s) (.ended x, t)
  | settling (rendered : String) (rounds : Nat) (w : Settling) {s t : Site}
    (h : Site.Peers q p s t) :
    Level q p (.settling q rendered rounds w, s) (.settling p rendered rounds w, t)

theorem Level.resultOrCancelled {q p : Nat} {x y : Stage × Site} (h : Level q p x y) :
    x.1.resultOrCancelled = y.1.resultOrCancelled := by
  cases h <;> rfl

namespace Site.Peers

variable {q p : Nat} {s t : Site}

theorem closePage (h : Site.Peers q p s t) (r : Request) (rendered : String) :
    Level q p (Stage.after (View.closePage r q rendered s))
      (Stage.after (View.closePage r p rendered t)) := by
  have htaken := h.activity.takePending.2
  by_cases hpending : (s.activity.registry q).pending = []
  · obtain ⟨log, hs⟩ := closePage_nil r rendered hpending
    rw [h.activity.record] at hpending
    obtain ⟨log', ht⟩ := closePage_nil r rendered hpending
    rw [hs, ht]
    exact .ended _ _ _
  · have hs := closePage_cons r rendered hpending
    rw [h.activity.record] at hpending
    have ht := closePage_cons r rendered hpending
    rw [hs, ht, h.activity.record, (h.engines r.engine).1.timeout]
    cases deadlineOf (t.engine r.engine).timeout with
    | error f => exact .ended _ _ _
    | ok deadline => exact .settling _ _ _ { h with activity := htaken }

theorem runPage (h : Site.Peers q p s t) (r : Request) (layout : Option Wrapping)
    (page : Compiled) :
    Level q p (Stage.after (View.runPage r q layout page s))
      (Stage.after (View.runPage r p layout page t)) := by
  obtain ⟨hresult, hnext⟩ := h.pageText r layout page
  rw [runPage_eq, runPage_eq, after_bind_apply, after_bind_apply]
  revert hresult hnext
  generalize View.pageText r q layout page s = x
  generalize View.pageText r p layout page t = y
  obtain ⟨result, s'⟩ := x
  obtain ⟨result', t'⟩ := y
  intro hresult hnext
  dsimp only at hresult
  subst hresult
  cases result with
  | error e => exact .ended _ _ _
  | ok rendered => exact hnext.closePage r rendered

theorem settle (h : Site.Peers q p s t) (r : Request) (rendered : String) (rounds : Nat)
    (w : Settling) :
    Level q p (Stage.step r (.settling q rendered rounds w) s)
      (Stage.step r (.settling p rendered rounds w) t) := by
  have htimeout := (h.engines r.engine).1.timeout
  cases hdeadline : deadlineOf (t.engine r.engine).timeout with
  | error f =>
    have hs := step_settling_error r rendered q rounds w (htimeout ▸ hdeadline)
    have ht := step_settling_error r rendered p rounds w hdeadline
    rw [hs, ht]
    exact .ended _ _ _
  | ok deadline =>
    obtain ⟨hsettling, hnext⟩ := h.activity.settling deadline rounds w
    cases hresult : (w.advance (some p) deadline rounds t.activity).1.result? with
    | none =>
      have hs := step_settling_none r rendered q rounds w (htimeout ▸ hdeadline) (hsettling ▸ hresult)
      have ht := step_settling_none r rendered p rounds w hdeadline hresult
      rw [hs, ht, hsettling]
      exact .settling _ _ _ { h with activity := hnext }
    | some settled =>
      obtain ⟨log, hs⟩ :=
        step_settling_some r rendered q rounds w (htimeout ▸ hdeadline) (hsettling ▸ hresult)
      obtain ⟨log', ht⟩ := step_settling_some r rendered p rounds w hdeadline hresult
      have hend := endWith_congr r rendered
        (s := { s with activity := (w.advance (some q) deadline rounds s.activity).2 })
        (t := { t with activity := (w.advance (some p) deadline rounds t.activity).2 })
        hnext.record (settled.result deadline)
      rw [hs, ht, hend]
      exact .ended _ _ _

end Site.Peers

theorem Level.runStages {q p : Nat} (r : Request) (n : Nat) {x y : Stage × Site} (h : Level q p x y) :
    Level q p (View.runStages r n x.1 x.2) (View.runStages r n y.1 y.2) := by
  -- One has ended if and only if the other has, so both take their stages together.
  induction n generalizing x y with
  | zero => exact h
  | succ n ih =>
    cases h with
    | ended x s t =>
      rw [runStages_ended, runStages_ended]
      exact .ended x s t
    | settling rendered rounds w h =>
      rw [runStages_succ r n _ rfl, runStages_succ r n _ rfl]
      exact ih (h.settle r rendered rounds w)

end DeferredViews.View
