import DeferredViews.Proofs.Early
import DeferredViews.Proofs.Leaks
import DeferredViews.View.Callback
import Mathlib.Logic.Relation

/-!
# What a callback is told

A render with a callback may run alone or as a task, with other work on the site between its steps.
Its callback is called when the render ends and never again, with the page or with the error; only a
render that one of its own helpers cancels ends without a word.
-/
namespace DeferredViews.View

open Deferred Relation

variable {C : String → Prop} {r : Request}

theorem spared_cancelWithin (C : String → Prop) (q : Nat) :
    Spared C q fun a => CancelWithin C a.helpers where
  within _ h := h
  putOff a name i args kwargs h := (helpers_putOff a (some q) name i args kwargs).symm ▸ h
  start _ _ _ h := h
  record _ _ h := h
  take _ h := h

theorem Stop.OfHelper.cancelled {e : Stop} {message : String} (h : e.OfHelper C)
    (he : e = .interrupt (.cancelled message)) : C message := by
  rcases h with ⟨_, _, _, hfailure⟩ | ⟨other, hC, hcancelled⟩
  · rw [hfailure] at he
    cases he
  · rw [hcancelled] at he
    cases he
    exact hC

namespace Stage

/-- A render whose task nobody has cancelled. -/
def Unforced (C : String → Prop) : Stage → Prop
  | .settling _ _ _ w => w.Unforced C
  | .ended x => ∀ message, x = .error (.interrupt (.cancelled message)) → C message
  | _ => True

theorem Early.unforced {q : Nat} {stage : Stage} (h : stage.Early C q) : stage.Unforced C := by
  cases stage with
  | settling p rendered rounds w =>
    obtain ⟨-, calls, rfl⟩ := h
    exact Settling.unforced_ofPending calls
  | ended x =>
    rintro message rfl
    exact h
  | _ => trivial

theorem Unforced.step {stage : Stage} {s : Site} (h : stage.Unforced C)
    (hC : CancelWithin C s.activity.helpers) (r : Request) :
    (stage.step r s).1.Unforced C := by
  cases stage with
  | opening => exact (opening_early (spared_cancelWithin C _) r hC hC).1.unforced
  | readingLayout q name path =>
    exact ((Sparing.readingLayout (spared_cancelWithin C q) r name path).after hC).1.unforced
  | readingPage q layout =>
    exact ((Sparing.readingPage (spared_cancelWithin C q) r layout).after hC).1.unforced
  | ended x => exact h
  | settling q rendered rounds w =>
    rcases step_settling_unforced h hC with ⟨v, activity, hstep, hv⟩ | ⟨x, hstep, hx⟩
    · rw [hstep]
      exact hv
    · rw [hstep]
      rintro message rfl
      rcases hx _ rfl with hhelper | ⟨f, -, hfault⟩
      · exact hhelper.cancelled rfl
      · cases hfault

theorem cancelWithin_step (stage : Stage) {s : Site} (hC : CancelWithin C s.activity.helpers)
    (r : Request) : CancelWithin C (stage.step r s).2.activity.helpers := by
  cases hheld : stage.held? with
  | some q => exact step_keeps (spared_cancelWithin C q) r hheld hC
  | none =>
    cases stage with
    | opening => exact (opening_early (spared_cancelWithin C _) r hC hC).2
    | ended x => exact hC
    | _ => cases hheld

/-- One move around a render: it goes on, with helpers that cancel with some messages only, or the
site changes elsewhere. -/
inductive Move (C : String → Prop) (r : Request) : Stage × Site → Stage × Site → Prop
  | own (stage : Stage) (s : Site) (hC : CancelWithin C s.activity.helpers) :
    Move C r (stage, s) (stage.step r s)
  | elsewhere (stage : Stage) (s t : Site) : Move C r (stage, s) (stage, t)

theorem Unforced.moves {x y : Stage × Site} (h : x.1.Unforced C)
    (hmoves : ReflTransGen (Move C r) x y) : y.1.Unforced C := by
  induction hmoves with
  | refl => exact h
  | tail _ hmove ih =>
    cases hmove with
    | own stage s hC => exact ih.step hC r
    | elsewhere stage s t => exact ih

/-- A render that nobody disturbs makes such moves. -/
theorem runStages_moves (r : Request) (n : Nat) {stage : Stage} {s : Site}
    (hC : CancelWithin C s.activity.helpers) :
    ReflTransGen (Move C r) (stage, s) (runStages r n stage s) := by
  induction n generalizing stage s with
  | zero => exact .refl
  | succ n ih =>
    cases hresult : stage.result? with
    | none =>
      rw [runStages_succ r n s hresult]
      exact .head (.own stage s hC) (ih (stage.cancelWithin_step hC r))
    | some x =>
      rw [runStages, hresult]

end Stage

namespace Errand

variable {callback : Callback String}

theorem step_rendering (callback : Callback String) (r : Request) (stage : Stage)
    (t : Told String) :
    (rendering stage).step callback r t =
      match (stage.step r t.site).1.result? with
      | none => (.rendering (stage.step r t.site).1, { t with site := (stage.step r t.site).2 })
      | some result =>
        (.done (Told.tell callback result { t with site := (stage.step r t.site).2 }).1,
          (Told.tell callback result { t with site := (stage.step r t.site).2 }).2) := rfl

/-- One move around a render with a callback. -/
inductive Move (C : String → Prop) (callback : Callback String) (r : Request) :
    Errand × Told String → Errand × Told String → Prop
  | own (errand : Errand) (t : Told String) (hC : CancelWithin C t.site.activity.helpers) :
    Move C callback r (errand, t) (errand.step callback r t)
  | elsewhere (errand : Errand) (t : Told String) (site : Site) :
    Move C callback r (errand, t) (errand, { t with site })

/-- A render with a callback that began on a site: nothing was told yet, or it has ended and its
result was told. -/
inductive Honest (C : String → Prop) (callback : Callback String) (r : Request) (s : Site) :
    Errand × Told String → Prop
  | rendering {stage : Stage} {t : Told String}
    (hmoves : ReflTransGen (Stage.Move C r) (.opening, s) (stage, t.site))
    (hopen : stage.result? = none) (hcalls : t.calls = []) :
    Honest C callback r s (.rendering stage, t)
  | done {result : Except Stop String} {u : Site} {t : Told String}
    (hmoves : ReflTransGen (Stage.Move C r) (.opening, s) (.ended result, u))
    (hcalls : t.calls = (Told.tell callback result ⟨u, []⟩).2.calls) :
    Honest C callback r s (.done (Told.tell callback result ⟨u, []⟩).1, t)

theorem Honest.move {s : Site} {x y : Errand × Told String} (h : Honest C callback r s x)
    (hmove : Move C callback r x y) : Honest C callback r s y := by
  cases hmove with
  | elsewhere errand t site =>
    cases h with
    | rendering hmoves hopen hcalls =>
      exact .rendering (hmoves.tail (.elsewhere _ _ site)) hopen hcalls
    | done hmoves hcalls => exact .done hmoves hcalls
  | own errand t hC =>
    cases h with
    | done hmoves hcalls => exact .done hmoves hcalls
    | @rendering stage _ hmoves hopen hcalls =>
      have hnext := hmoves.tail (.own stage t.site hC)
      obtain ⟨site, calls⟩ := t
      dsimp only at hcalls hnext
      subst hcalls
      rw [step_rendering]
      revert hnext
      generalize stage.step r site = z
      obtain ⟨stage', site'⟩ := z
      intro hnext
      dsimp only
      cases hresult : stage'.result? with
      | none => exact .rendering hnext hresult rfl
      | some result =>
        cases stage' with
        | ended x =>
          cases hresult
          exact .done hnext rfl
        | _ => cases hresult

theorem Honest.moves {s : Site} {x y : Errand × Told String} (h : Honest C callback r s x)
    (hmoves : ReflTransGen (Move C callback r) x y) : Honest C callback r s y := by
  induction hmoves with
  | refl => exact h
  | tail _ hmove ih => exact ih.move hmove

theorem honest_opening (C : String → Prop) (callback : Callback String) (r : Request) (s : Site) :
    Honest C callback r s (.rendering .opening, ⟨s, []⟩) :=
  .rendering .refl rfl rfl

theorem run_done (callback : Callback String) (r : Request) (n : Nat) (x : Except Stop Unit)
    (t : Told String) : run callback r n (.done x) t = (.done x, t) := by
  induction n with
  | zero => rfl
  | succ n ih => exact ih

/-- A render that runs alone and ends has told its callback. -/
theorem run_rendering {callback : Callback String} {n : Nat} {stage : Stage} {s u : Site}
    {result : Except Stop String} (hopen : stage.result? = none)
    (hruns : runStages r n stage s = (.ended result, u)) :
    run callback r n (.rendering stage) ⟨s, []⟩ =
      (.done (Told.tell callback result ⟨u, []⟩).1, (Told.tell callback result ⟨u, []⟩).2) := by
  induction n generalizing stage s with
  | zero =>
    cases hruns
    cases hopen
  | succ n ih =>
    rw [runStages_succ r n s hopen] at hruns
    rw [run, step_rendering]
    revert hruns
    generalize stage.step r s = z
    obtain ⟨stage', s'⟩ := z
    intro hruns
    dsimp only
    cases hresult : stage'.result? with
    | none => exact ih hresult hruns
    | some x =>
      cases stage' with
      | ended y =>
        cases hresult
        rw [runStages_ended] at hruns
        cases hruns
        exact run_done callback r n _ _
      | _ => cases hresult

theorem run_moves (callback : Callback String) (r : Request) {n : Nat} {errand : Errand}
    {t : Told String}
    (hC : ∀ stage, errand = .rendering stage → CancelWithin C t.site.activity.helpers) :
    ReflTransGen (Move C callback r) (errand, t) (run callback r n errand t) := by
  induction n generalizing errand t with
  | zero => exact .refl
  | succ n ih =>
    cases errand with
    | done x =>
      rw [run_done]
    | rendering stage =>
      -- Only what the callback does may change the helpers, and then the render is done.
      have hnext : ∀ stage', ((rendering stage).step callback r t).1 = .rendering stage' →
          CancelWithin C ((rendering stage).step callback r t).2.site.activity.helpers := by
        rw [step_rendering]
        cases (stage.step r t.site).1.result? with
        | none => exact fun _ _ => stage.cancelWithin_step (hC stage rfl) r
        | some result => exact fun _ => nofun
      exact .head (.own _ t (hC stage rfl)) (ih hnext)

end Errand

/-- A render with a callback calls it at its end and at no other time: with the page, or with the
error. How the callback ends is how the whole ends, and nothing else is called. It is only when a
helper cancels the render that the callback is not called at all. This holds in a loop, where other
work may change the site between any two steps, and outside of one, where the call returns when all
is done. -/
theorem told_once (C : String → Prop) (callback : Callback String) (inLoop : Bool) (r : Request)
    (s : Site) (hC : CancelWithin C s.activity.helpers) :
    (∀ errand t, ReflTransGen (Errand.Move C callback r) (Errand.start callback inLoop r s)
        (errand, t) →
      (∀ stage, errand = .rendering stage → stage.result? = none ∧ t.calls = []) ∧
      ∀ ended, errand = .done ended → ∃ result u,
        ReflTransGen (Stage.Move C r) (.opening, s) (.ended result, u) ∧
        ((∃ html, result = .ok html ∧ t.calls = [(none, some html)] ∧
            ended = (callback none (some html) u).1) ∨
          (∃ e, result = .error e ∧ (∀ message, e ≠ .interrupt (.cancelled message)) ∧
            t.calls = [(some e, none)] ∧ ended = (callback (some e) none u).1) ∨
          ∃ message, C message ∧ result = .error (.interrupt (.cancelled message)) ∧
            t.calls = [] ∧ ended = .error (.interrupt (.cancelled message)))) ∧
    Errand.start callback true r s = (.rendering .opening, ⟨s, []⟩) ∧
    ∀ result u, runStages r (patience s) .opening s = (.ended result, u) →
      Errand.start callback false r s =
        (.done (Told.tell callback result ⟨u, []⟩).1, (Told.tell callback result ⟨u, []⟩).2) := by
  refine ⟨?_, rfl, fun result u hruns => Errand.run_rendering rfl hruns⟩
  intro errand t hmoves
  have hstart : ReflTransGen (Errand.Move C callback r) (.rendering .opening, ⟨s, []⟩)
      (Errand.start callback inLoop r s) := by
    cases inLoop with
    | true => exact .refl
    | false => exact Errand.run_moves callback r fun _ _ => hC
  have hhonest := (Errand.honest_opening C callback r s).moves (hstart.trans hmoves)
  cases hhonest with
  | rendering _ hopen hcalls =>
    refine ⟨?_, fun _ hdone => Errand.noConfusion hdone⟩
    rintro _ ⟨⟩
    exact ⟨hopen, hcalls⟩
  | @done result u _ hcourse hcalls =>
    refine ⟨fun _ hrendering => Errand.noConfusion hrendering, ?_⟩
    rintro _ ⟨⟩
    refine ⟨result, u, hcourse, ?_⟩
    have hforced := Stage.Unforced.moves (C := C) (x := (.opening, s)) trivial hcourse
    cases result with
    | ok html => exact .inl ⟨html, rfl, hcalls, rfl⟩
    | error e =>
      by_cases hcancelled : ∃ message, e = .interrupt (.cancelled message)
      · obtain ⟨message, rfl⟩ := hcancelled
        exact .inr (.inr ⟨message, hforced message rfl, rfl, hcalls, rfl⟩)
      · have hother : ∀ message, e ≠ .interrupt (.cancelled message) :=
          fun message he => hcancelled ⟨message, he⟩
        have htell : Told.tell callback (.error e) ⟨u, []⟩ =
            Told.call callback (some e) none ⟨u, []⟩ := by
          rw [Told.tell]
          exact hother
        rw [htell] at hcalls ⊢
        exact .inr (.inl ⟨e, rfl, hother, hcalls, rfl⟩)

/-- The site of the profile with another helper behind its pages. -/
def profileWith (reply : Reply) : Site :=
  { profileSite with
    activity := { profileSite.activity with helpers := [{ answersAnn with body := fun _ => reply }] } }

/-- A callback that fails whatever it is told. -/
def fails : Callback String := fun _ _ => throw (.fault (.value "late"))

/-- A callback that fails is not called again, and its failure ends the whole. -/
theorem told_once_of_failing_callback :
    CancelWithin (fun _ => False) (profileWith (.fault .tooDeep)).activity.helpers ∧
      ∃ e t, Errand.start fails false ⟨0, "/v/page.html", 0⟩ (profileWith (.fault .tooDeep)) =
          (.done (.error (.fault (.value "late"))), t) ∧ t.calls = [(some e, none)] := by
  have hC : CancelWithin (fun _ => False) (profileWith (.fault .tooDeep)).activity.helpers := by
    intro h hh call message hcancelled
    rw [List.mem_singleton.mp hh] at hcancelled
    cases hcancelled
  have hcalled : (Errand.start fails false ⟨0, "/v/page.html", 0⟩
      (profileWith (.fault .tooDeep))).2.calls.map (·.2) = [none] := by
    decide +kernel
  refine ⟨hC, ?_⟩
  obtain ⟨honce, -⟩ := told_once (fun _ => False) fails false ⟨0, "/v/page.html", 0⟩
    (profileWith (.fault .tooDeep)) hC
  generalize Errand.start fails false _ _ = x at honce hcalled ⊢
  obtain ⟨errand, t⟩ := x
  obtain ⟨hrendering, hdone⟩ := honce errand t .refl
  cases errand with
  | rendering stage =>
    dsimp only at hcalled
    rw [(hrendering stage rfl).2] at hcalled
    cases hcalled
  | done ended =>
    obtain ⟨result, u, -, ⟨html, -, hcalls, -⟩ | ⟨e, -, -, hcalls, hended⟩ | ⟨message, hfalse, -⟩⟩ :=
      hdone ended rfl
    · dsimp only at hcalled
      rw [hcalls] at hcalled
      cases hcalled
    · exact ⟨e, t, by rw [hended]; rfl, hcalls⟩
    · exact hfalse.elim

/-- A render that its own helper cancels ends without a word. -/
theorem untold_of_cancelling_helper :
    (render ⟨0, "/v/page.html", 0⟩ (profileWith (.cancelled ""))).1 =
        .error (.interrupt (.cancelled "")) ∧
      (Errand.start listen false ⟨0, "/v/page.html", 0⟩ (profileWith (.cancelled ""))).2.calls = [] ∧
      cancellation? (Errand.start listen false ⟨0, "/v/page.html", 0⟩
        (profileWith (.cancelled ""))).1.ended = some "" := by
  decide +kernel

end DeferredViews.View
