import DeferredViews.Proofs.Interrupts

/-!
# Before the wait

Before a render waits for helpers it puts calls off to its own registry, starts the helpers that
answer on the spot, and takes the calls that it will wait for. Only the wait and the completion of
the page blame a helper: whatever ends a render before that is the failure of a file or a template,
a fault, or a helper that cancels the render.
-/
namespace DeferredViews.Deferred

/-- A property of the activity that a render with registry `q` does not break, and by which helpers
cancel with some messages only. -/
structure Spared (C : String → Prop) (q : Nat) (K : Activity → Prop) : Prop where
  within : ∀ a, K a → CancelWithin C a.helpers
  putOff : ∀ a name i args kwargs, K a → K (a.putOff (some q) name i args kwargs).2
  start : ∀ a i h, K a → K (a.start i h).2
  record : ∀ a e, K a → K (a.record e)
  take : ∀ a, K a → K (a.takePending q).2

section Waits

variable {C : String → Prop} {q : Nat} {K : Activity → Prop} {a : Activity}

theorem Task.conclude_keeps (hK : Spared C q K) (h : Helper) (call : Call) (ha : K a) :
    K (conclude (some q) h call a).2 := by
  have hanswer := View.answer_keeps hK.putOff (h.body call) ha
  rw [conclude]
  split <;> next heq => simpa [heq] using hanswer

theorem Task.step_keeps (hK : Spared C q K) (t : Task) (ha : K a) : K (t.step (some q) a).2 := by
  rw [step]
  split
  · exact ha
  · next h _ =>
    dsimp only
    rw [advance]
    cases t.state with
    | ready =>
      have hstarted := hK.start a t.call.helper h ha
      dsimp only
      split
      · exact hstarted
      · exact conclude_keeps hK h _ hstarted
    | pausing left call =>
      cases left with
      | zero => exact conclude_keeps hK h call (hK.record a _ ha)
      | succ left => exact ha
    | hanging => exact ha
    | cancelling hung =>
      dsimp only
      split
      · exact hK.record a _ ha
      · exact ha
    | finished o => exact ha

theorem Settling.advance_keeps (hK : Spared C q K) (w : Settling) (deadline : Option Deadline)
    (rounds : Nat) (ha : K a) : K (w.advance (some q) deadline rounds a).2 := by
  suffices hall : ∀ tasks a, K a → K (stepAll (some q) tasks a).2 from hall w.tasks a ha
  intro tasks
  induction tasks with
  | nil => exact fun _ ha => ha
  | cons t more ih => exact fun a ha => ih _ (t.step_keeps hK ha)

end Waits
end DeferredViews.Deferred

namespace DeferredViews.View

open Deferred Files

/-- The registry of a render that is under way. -/
def Stage.held? : Stage → Option Nat
  | .opening => none
  | .readingLayout q _ _ => some q
  | .readingPage q _ => some q
  | .settling q _ _ _ => some q
  | .ended _ => none

/-- A reason for which no helper is blamed, while helpers cancel with some messages only. -/
def Stop.Plain (C : String → Prop) : Stop → Prop
  | .failure (.unreadable ..) | .failure (.template ..) | .interrupt (.fault _) => True
  | .failure (.partials ..) | .failure (.helper ..) => False
  | .interrupt (.cancelled message) => C message

theorem Stop.OfTemplate.plain {C : String → Prop} {e : Stop} (h : e.OfTemplate C) : e.Plain C := by
  rcases h with ⟨name, f, rfl⟩ | ⟨message, hC, rfl⟩
  · trivial
  · exact hC

/-- Where a render is that has not waited for helpers yet: its registry is open and the calls that it
is about to wait for have not started, or it has ended and no helper is blamed. -/
def Stage.Early (C : String → Prop) (q : Nat) : Stage → Prop
  | .opening => False
  | .readingLayout p _ _ => p = q
  | .readingPage p _ => p = q
  | .settling p _ _ w => p = q ∧ ∃ calls, w = .ofPending calls
  | .ended (.ok _) => True
  | .ended (.error e) => e.Plain C

/-- A part of a render that ends with some value or for a reason that blames no helper, and does not
break a property of the activity. -/
def Sparing {α : Type} (K : Activity → Prop) (C : String → Prop) (P : α → Prop) (x : Work α) :
    Prop :=
  ∀ s, K s.activity → K (x s).2.activity ∧ (∀ e, (x s).1 = .error e → e.Plain C) ∧
    ∀ a, (x s).1 = .ok a → P a

namespace Sparing

section Parts

variable {α β : Type} {K : Activity → Prop} {C : String → Prop} {P : α → Prop} {Q : β → Prop}

theorem pure {a : α} (h : P a) : Sparing K C P (Pure.pure a : Work α) := by
  intro s hs
  refine ⟨hs, fun _ => nofun, ?_⟩
  rintro _ ⟨⟩
  exact h

theorem throw {e : Stop} (h : e.Plain C) : Sparing K C P (MonadExcept.throw e : Work α) := by
  intro s hs
  refine ⟨hs, ?_, fun _ => nofun⟩
  rintro _ ⟨⟩
  exact h

theorem bind {x : Work α} {f : α → Work β} (hx : Sparing K C P x)
    (hf : ∀ a, P a → Sparing K C Q (f a)) : Sparing K C Q (x >>= f) := by
  intro s hs
  rw [bind_apply]
  obtain ⟨hkept, hplain, hvalue⟩ := hx s hs
  cases hresult : (x s).1 with
  | ok a => exact hf a (hvalue a hresult) (x s).2 hkept
  | error e =>
    refine ⟨hkept, ?_, fun _ => nofun⟩
    rintro _ ⟨⟩
    exact hplain e hresult

theorem get_bind {f : Site → Work β} (h : ∀ s, Sparing K C Q (f s)) :
    Sparing K C Q (MonadState.get >>= f) :=
  fun s hs => h s s hs

/-- A part that only changes the site elsewhere. -/
theorem aside {x : Work α} (h : ∀ s, ∃ a t, x s = (.ok a, t) ∧ t.activity = s.activity) :
    Sparing K C (fun _ => True) x := by
  intro s hs
  obtain ⟨a, t, hx, ht⟩ := h s
  rw [hx]
  exact ⟨ht.symm ▸ hs, fun _ => nofun, fun _ _ => trivial⟩

theorem note (record : Log.Record) : Sparing K C (fun _ => True) (View.note record) :=
  aside fun s => ⟨_, _, note_apply record s, rfl⟩

theorem orFault (x : Except Fault α) : Sparing K C (fun _ => True) (View.orFault x) := by
  cases x with
  | ok a => exact .pure trivial
  | error f => exact .throw trivial

theorem readTemplate (path : String) : Sparing K C (fun _ => True) (View.readTemplate path) := by
  intro s hs
  rw [readTemplate_apply]
  refine ⟨hs, fun e he => ?_, fun _ _ => trivial⟩
  obtain ⟨-, rfl⟩ | ⟨why, -, rfl⟩ | ⟨why, -, rfl⟩ := templateText_error he
  all_goals trivial

theorem compileFile (e : Nat) (path source : String) :
    Sparing K C (fun _ => True) (View.compileFile e path source) := by
  intro s hs
  rw [Mirror.compileFile_apply]
  cases Template.compile (s.engine e).autoescape none source with
  | ok t => exact ⟨hs, fun _ => nofun, fun _ _ => trivial⟩
  | error f =>
    refine ⟨hs, ?_, fun _ => nofun⟩
    rintro _ ⟨⟩
    trivial

theorem cached? (r : Request) (space : Space) (key : String) :
    Sparing K C (fun _ => True) (View.cached? r space key) := by
  refine aside fun s => ?_
  obtain ⟨log, hcached⟩ := cached?_apply r space key s
  exact ⟨_, _, hcached, rfl⟩

theorem keep (r : Request) (space : Space) (key : String) (c : Compiled) :
    Sparing K C (fun _ => True) (View.keep r space key c) := by
  refine aside fun s => ?_
  obtain ⟨log, hkeep⟩ := keep_apply r space key c s
  exact ⟨_, _, hkeep, rfl⟩

end Parts

section Held

variable {C : String → Prop} {q : Nat} {K : Activity → Prop} (hK : Spared C q K) (r : Request)

include hK

theorem pageText (layout : Option Wrapping) (page : Compiled) :
    Sparing K C (fun _ => True) (View.pageText r q layout page) := by
  intro s hs
  refine ⟨?_, fun e he => (pageText_error (hK.within _ hs) he).plain, fun _ _ => trivial⟩
  exact activity_pageText_keeps hK.putOff hK.start r layout page hs

theorem closePage (rendered : String) :
    Sparing K C (Stage.Early C q) (View.closePage r q rendered) := by
  intro s hs
  have htaken := hK.take s.activity hs
  by_cases hpending : (s.activity.registry q).pending = []
  · obtain ⟨log, hclose⟩ := closePage_nil r rendered hpending
    rw [hclose]
    refine ⟨htaken, fun _ => nofun, ?_⟩
    rintro _ ⟨⟩
    trivial
  · rw [closePage_cons r rendered hpending]
    cases deadlineOf (s.engine r.engine).timeout with
    | ok deadline =>
      refine ⟨htaken, fun _ => nofun, ?_⟩
      rintro _ ⟨⟩
      exact ⟨rfl, _, rfl⟩
    | error f =>
      refine ⟨htaken, ?_, fun _ => nofun⟩
      rintro _ ⟨⟩
      trivial

theorem runPage (layout : Option Wrapping) (page : Compiled) :
    Sparing K C (Stage.Early C q) (View.runPage r q layout page) := by
  rw [runPage_eq]
  exact (pageText hK r layout page).bind fun rendered _ => closePage hK r rendered

theorem startPage (layout : Option Wrapping) :
    Sparing K C (Stage.Early C q) (View.startPage r q layout) := by
  rw [View.startPage]
  refine (cached? r .file r.path).bind fun found _ => ?_
  cases found with
  | some c => exact runPage hK r layout c
  | none => exact .pure rfl

theorem startLayout (decision : LayoutDecision) (name : String) :
    Sparing K C (Stage.Early C q) (View.startLayout r q decision name) := by
  rw [View.startLayout]
  refine (cached? r .layout name).bind fun found _ => ?_
  cases found with
  | some c => exact startPage hK r _
  | none =>
    refine get_bind fun s => ?_
    refine (orFault _).bind fun views _ => ?_
    refine (orFault _).bind fun x _ => ?_
    refine (note _).bind fun _ _ => ?_
    cases x.1 with
    | some path => exact .pure rfl
    | none =>
      dsimp only
      split
      · exact throw trivial
      · exact (note _).bind fun _ _ => startPage hK r none

theorem readingLayout (name : String) (path : Path) :
    Sparing K C (Stage.Early C q) (Stage.work r (.readingLayout q name path)) := by
  refine (readTemplate path.text).bind fun source _ => ?_
  refine (compileFile r.engine path.text source).bind fun c _ => ?_
  exact (keep r .layout name c).bind fun _ _ => startPage hK r _

theorem readingPage (layout : Option Wrapping) :
    Sparing K C (Stage.Early C q) (Stage.work r (.readingPage q layout)) := by
  refine (readTemplate r.path).bind fun source _ => ?_
  refine (compileFile r.engine r.path source).bind fun c _ => ?_
  exact (keep r .file r.path c).bind fun _ _ => runPage hK r layout c

end Held

/-- Where such a part leads. -/
theorem after {K : Activity → Prop} {C : String → Prop} {q : Nat} {x : Work Stage}
    (h : Sparing K C (Stage.Early C q) x) {s : Site} (hs : K s.activity) :
    (Stage.after (x s)).1.Early C q ∧ K (Stage.after (x s)).2.activity := by
  obtain ⟨hkept, hplain, hstage⟩ := h s hs
  generalize x s = y at hkept hplain hstage
  obtain ⟨result, t⟩ := y
  cases result with
  | ok next => exact ⟨hstage next rfl, hkept⟩
  | error e => exact ⟨hplain e rfl, hkept⟩

end Sparing

/-- A render that does not wait for helpers yet. -/
def Stage.IsEarly : Stage → Prop
  | .opening => True
  | .readingLayout _ _ _ => True
  | .readingPage _ _ => True
  | _ => False

section Steps

variable {C : String → Prop} {q : Nat} {K : Activity → Prop} {s : Site}

/-- Where a render leads that opens, with a registry of its own. -/
theorem opening_early (hK : Spared C s.activity.registries.length K) (r : Request)
    (hs : K s.activity) (hopened : K s.opened.activity) :
    (Stage.step r .opening s).1.Early C s.activity.registries.length ∧
      K (Stage.step r .opening s).2.activity := by
  rw [step_opening]
  cases LayoutDecision.ofOptions (s.optionsAt r.options) with
  | error f => exact ⟨trivial, hs⟩
  | ok decision =>
    dsimp only
    cases decision.name? with
    | none => exact (Sparing.startPage hK r none).after hopened
    | some name => exact (Sparing.startLayout hK r decision name).after hopened

/-- Where a render leads that goes on before any waiting. -/
theorem step_early (hK : Spared C q K) (r : Request) {stage : Stage} (h : stage.IsEarly)
    (hheld : stage.held? = some q) (hs : K s.activity) :
    (stage.step r s).1.Early C q ∧ K (stage.step r s).2.activity := by
  cases stage with
  | opening => cases hheld
  | readingLayout p name path =>
    cases hheld
    exact (Sparing.readingLayout hK r name path).after hs
  | readingPage p layout =>
    cases hheld
    exact (Sparing.readingPage hK r layout).after hs
  | settling p rendered rounds w => exact h.elim
  | ended result => exact h.elim

/-- A render that goes on with its registry does not break such a property. -/
theorem step_keeps (hK : Spared C q K) (r : Request) {stage : Stage} (hheld : stage.held? = some q)
    (hs : K s.activity) : K (stage.step r s).2.activity := by
  cases stage with
  | opening => cases hheld
  | readingLayout p name path =>
    cases hheld
    exact ((Sparing.readingLayout hK r name path).after hs).2
  | readingPage p layout =>
    cases hheld
    exact ((Sparing.readingPage hK r layout).after hs).2
  | ended result => cases hheld
  | settling p rendered rounds w =>
    cases hheld
    cases hdeadline : deadlineOf (s.engine r.engine).timeout with
    | error f =>
      rw [step_settling_error r rendered q rounds w hdeadline]
      exact hs
    | ok deadline =>
      have hadvance := w.advance_keeps hK deadline rounds hs
      cases hresult : (w.advance (some q) deadline rounds s.activity).1.result? with
      | none =>
        rw [step_settling_none r rendered q rounds w hdeadline hresult]
        exact hadvance
      | some settled =>
        obtain ⟨log, hstep⟩ := step_settling_some r rendered q rounds w hdeadline hresult
        rw [hstep]
        exact hadvance

end Steps

end DeferredViews.View
