import DeferredViews.Deferred.Scope
import DeferredViews.Proofs.Books
import DeferredViews.Proofs.Early

/-!
# Which registry is in scope

A task may open scopes within scopes, render views, start other tasks, and fail or be cancelled at
any time, while all other tasks go on. What is in scope for it is the registry of the innermost scope
that it has open, or else the one that was in scope for the task that started it; calls are put off
to that registry and to no other, and each scope is left with the binding that it found.
-/
namespace DeferredViews.View

open Deferred Relation

/-- What a task does. -/
inductive Deed where
  /-- Call a function as a template does, be it a helper or one whose calls are put off. -/
  | call (f : Callable) (args : List Value) (kwargs : Locals)
  | resolve (helper : Nat) (args : List Value) (kwargs : Locals)
  | scope (body : List Deed)
  | render (r : Request)
  | spawn (body : List Deed)
  | fail (e : Stop)
  /-- Go on with a handler when the body ends for certain reasons. -/
  | attempt (body : List Deed) (catches : Stop → Bool) (handler : List Deed)

/-- What a task has begun and not ended, with what comes after it. -/
inductive Frame where
  | scope (registry : Nat) (rest : List Deed)
  | attempt (catches : Stop → Bool) (handler rest : List Deed)

def Frame.registry? : Frame → Option Nat
  | .scope registry _ => some registry
  | .attempt _ _ _ => none

/-- Where a task is. -/
inductive Doing where
  | going (deeds : List Deed)
  | raising (e : Stop)
  | rendering (r : Request) (stage : Stage) (rest : List Deed)

/-- The registry of a render that is under way. -/
def Doing.held? : Doing → Option Nat
  | .rendering _ stage _ => stage.held?
  | _ => none

/-- A task, and what was in scope for the one that started it. -/
structure Worker where
  inherited : Option Nat := none
  scopes : Scopes := {}
  frames : List Frame := []
  doing : Doing

namespace Worker

/-- A render goes from one stage to the next. It holds its scope open from when its registry is
opened until it ends. -/
def follow (w : Worker) (r : Request) (rest : List Deed) (stage next : Stage) : Worker :=
  { w with
    scopes :=
      match stage.held?, next.held? with
      | none, some q => w.scopes.enter q
      | some _, none => w.scopes.leave
      | _, _ => w.scopes
    doing :=
      match next.result? with
      | none => .rendering r next rest
      | some (.ok _) => .going rest
      | some (.error e) => .raising e }

/-- A task goes on with what comes after something that may fail. -/
def goOn {α : Type} (w : Worker) (rest : List Deed) : Except Stop α → Worker
  | .ok _ => { w with doing := .going rest }
  | .error e => { w with doing := .raising e }

/-- A task ends what it has begun last: when there is no more to do, or when it fails. Without
anything begun the task is over. -/
def close (w : Worker) : Worker :=
  match w.frames, w.doing with
  | .scope _ rest :: frames, .going _ =>
    { w with scopes := w.scopes.leave, frames, doing := .going rest }
  | .scope _ _ :: frames, .raising _ => { w with scopes := w.scopes.leave, frames }
  | .attempt _ _ rest :: frames, .going _ => { w with frames, doing := .going rest }
  | .attempt catches handler rest :: frames, .raising e =>
    { w with frames, doing := if catches e then .going (handler ++ rest) else .raising e }
  | _, _ => w

/-- One step of a task, with the tasks that it starts. -/
def step (w : Worker) (s : Site) : Worker × Site × List Worker :=
  match w.doing with
  | .raising _ | .going [] => (w.close, s, [])
  | .rendering r stage rest =>
    let (next, s) := stage.step r s
    (w.follow r rest stage next, s, [])
  | .going (.call f args kwargs :: rest) =>
    let (result, activity) := callNow w.scopes.innermost? f args kwargs s.activity
    (w.goOn rest (result.mapError .interrupt), { s with activity }, [])
  | .going (.resolve helper args kwargs :: rest) =>
    let (result, activity) := s.activity.putOff w.scopes.innermost? "" helper args kwargs
    (w.goOn rest (result.mapError .fault), { s with activity }, [])
  | .going (.scope body :: rest) =>
    let (registry, scopes, activity) := s.activity.enterScope w.scopes
    ({ w with scopes, frames := .scope registry rest :: w.frames, doing := .going body },
      { s with activity }, [])
  | .going (.render r :: rest) => ({ w with doing := .rendering r .opening rest }, s, [])
  | .going (.spawn body :: rest) =>
    ({ w with doing := .going rest }, s,
      [{ inherited := w.scopes.innermost?, scopes := w.scopes.fork, doing := .going body }])
  | .going (.fail e :: _) => ({ w with doing := .raising e }, s, [])
  | .going (.attempt body catches handler :: rest) =>
    ({ w with frames := .attempt catches handler rest :: w.frames, doing := .going body }, s, [])

/-- A task is cancelled. One that is over, or about to end with an error, goes on as it is. -/
def cancel (w : Worker) : Worker :=
  match w.doing, w.frames with
  | .going [], [] => w
  | .going _, _ => { w with doing := .raising (.interrupt (.cancelled "")) }
  | .raising _, _ => w
  | .rendering r stage rest, _ => w.follow r rest stage stage.cancel

/-- The registries of the scopes that a task has open, the innermost first. -/
def opened (w : Worker) : List Nat :=
  w.doing.held?.toList ++ w.frames.filterMap Frame.registry?

end Worker

/-- Tasks side by side. -/
structure Crowd where
  site : Site
  workers : List Worker

namespace Crowd

/-- A task makes a step, and the tasks that it starts come last. -/
def goOn (x : Crowd) (i : Nat) (w : Worker) : Crowd :=
  ⟨(w.step x.site).2.1, x.workers.set i (w.step x.site).1 ++ (w.step x.site).2.2⟩

/-- What may happen next: a task goes on, a task is cancelled, or the site changes elsewhere, where
no registry is lost. -/
inductive Move : Crowd → Crowd → Prop
  | step {x : Crowd} {i : Nat} {w : Worker} (hw : x.workers[i]? = some w) : Move x (x.goOn i w)
  | cancelled {x : Crowd} {i : Nat} {w : Worker} (hw : x.workers[i]? = some w) :
    Move x { x with workers := x.workers.set i w.cancel }
  | elsewhere (x : Crowd) (s : Site)
    (h : x.site.activity.registries.length ≤ s.activity.registries.length) :
    Move x { x with site := s }

end Crowd
end DeferredViews.View

namespace DeferredViews.Deferred

/-- The bindings of a task that has opened scopes, the innermost first. -/
def Scopes.of (inherited : Option Nat) (opened : List Nat) : Scopes :=
  opened.foldr (fun q s => s.enter q) ⟨inherited, []⟩

@[simp] theorem Scopes.innermost?_of (inherited : Option Nat) (opened : List Nat) :
    (Scopes.of inherited opened).innermost? = opened.head?.or inherited := by
  cases opened <;> rfl

/-- What comes of an activity without a change to a registry that is not in scope. -/
structure Activity.OnlyIn (scope : Option Nat) (a b : Activity) : Prop where
  length : a.registries.length ≤ b.registries.length
  others : ∀ p < a.registries.length, scope ≠ some p → b.registry p = a.registry p

namespace Activity.OnlyIn

variable {scope : Option Nat} {q : Nat} {a b : Activity}

theorem refl (scope : Option Nat) (a : Activity) : OnlyIn scope a a :=
  ⟨Nat.le_refl _, fun _ _ _ => rfl⟩

theorem setRegistry (h : OnlyIn (some q) a b) (value : Registry) :
    OnlyIn (some q) a (b.setRegistry q value) where
  length := by
    rw [Activity.setRegistry, List.length_set]
    exact h.length
  others p hp hq := by
    rw [b.registry_setRegistry_of_ne value fun heq => hq (congrArg some heq)]
    exact h.others p hp hq

theorem putOff (h : OnlyIn scope a b) (name : String) (helper : Nat) (args : List Value)
    (kwargs : Locals) : OnlyIn scope a (b.putOff scope name helper args kwargs).2 := by
  cases scope with
  | none => exact h
  | some q => exact h.setRegistry _

theorem openRegistry (scope : Option Nat) (a : Activity) : OnlyIn scope a a.openRegistry.2 where
  length := by
    rw [Activity.openRegistry, List.length_append]
    exact Nat.le_add_right _ _
  others p hp _ := by
    rw [a.registry_openRegistry, if_neg (Nat.ne_of_lt hp)]

theorem callNow (scope : Option Nat) (f : Callable) (args : List Value) (kwargs : Locals)
    (a : Activity) : OnlyIn scope a (callNow scope f args kwargs a).2 :=
  View.callNow_keeps (P := OnlyIn scope a) (fun _ name i args kwargs hb => hb.putOff name i args kwargs)
    (fun _ _ _ hb => ⟨hb.length, hb.others⟩) f args kwargs (refl scope a)

/-- Whatever a render does with its registry, it leaves the others alone. -/
theorem spared (q : Nat) (a : Activity) : Spared (fun _ => True) q (OnlyIn (some q) a) where
  within _ _ _ _ _ _ _ := trivial
  putOff _ name i args kwargs h := h.putOff name i args kwargs
  start _ _ _ h := ⟨h.length, h.others⟩
  record _ _ h := ⟨h.length, h.others⟩
  take _ h := h.setRegistry _

end Activity.OnlyIn
end DeferredViews.Deferred

namespace DeferredViews.View

open Deferred Relation

section Renders

variable {q : Nat} {stage : Stage} (r : Request) (s : Site)

theorem Stage.Early.held? {C : String → Prop} (h : stage.Early C q) {p : Nat}
    (hp : stage.held? = some p) : p = q := by
  cases stage with
  | opening => cases hp
  | readingLayout p' name path =>
    cases hp
    exact h
  | readingPage p' layout =>
    cases hp
    exact h
  | settling p' rendered rounds w =>
    cases hp
    exact h.1
  | ended x => cases hp

theorem Stage.held?_of_result? {stage : Stage} (h : stage.result?.isSome = true) :
    stage.held? = none := by
  cases stage with
  | ended x => rfl
  | _ => cases h

/-- A render that is cancelled keeps its registry until its helpers have stopped. -/
theorem Stage.held?_cancel (stage : Stage) {p : Nat} (hp : stage.cancel.held? = some p) :
    stage.held? = some p := by
  cases stage with
  | settling q rendered rounds w => exact hp
  | _ => cases hp

/-- A render opens a registry of its own. -/
theorem opening_onlyIn (scope : Option Nat) :
    s.activity.OnlyIn scope (Stage.step r .opening s).2.activity ∧
      ∀ p, (Stage.step r .opening s).1.held? = some p →
        p = s.activity.registries.length ∧
          p < (Stage.step r .opening s).2.activity.registries.length := by
  have hopened : s.activity.OnlyIn scope s.opened.activity := .openRegistry scope s.activity
  have hlength : s.opened.activity.registries.length = s.activity.registries.length + 1 :=
    List.length_append
  have hspared := Activity.OnlyIn.spared s.activity.registries.length s.opened.activity
  have hwork : ∀ x : Work Stage,
      Sparing (Activity.OnlyIn (some s.activity.registries.length) s.opened.activity)
        (fun _ => True) (Stage.Early (fun _ => True) s.activity.registries.length) x →
      s.activity.OnlyIn scope (Stage.after (x s.opened)).2.activity ∧
        ∀ p, (Stage.after (x s.opened)).1.held? = some p →
          p = s.activity.registries.length ∧
            p < (Stage.after (x s.opened)).2.activity.registries.length := by
    intro x hx
    obtain ⟨hearly, honly⟩ := hx.after (.refl _ _)
    have hlong := honly.length
    refine ⟨⟨by omega, fun p hp hscope => ?_⟩, fun p hp => ?_⟩
    · have hother : some s.activity.registries.length ≠ some p := by
        intro heq
        cases heq
        exact Nat.lt_irrefl _ hp
      exact (honly.others p (by omega) hother).trans (hopened.others p hp hscope)
    · have hq := hearly.held? hp
      exact ⟨hq, by omega⟩
  rw [step_opening]
  cases LayoutDecision.ofOptions (s.optionsAt r.options) with
  | error f => exact ⟨.refl _ _, fun _ => nofun⟩
  | ok decision =>
    dsimp only
    cases decision.name? with
    | none => exact hwork _ (.startPage hspared r none)
    | some name => exact hwork _ (.startLayout hspared r decision name)

theorem step_onlyIn (hheld : stage.held? = some q) :
    s.activity.OnlyIn (some q) (stage.step r s).2.activity ∧
      ∀ p, (stage.step r s).1.held? = some p → p = q := by
  have hspared := Activity.OnlyIn.spared q s.activity
  refine ⟨step_keeps hspared r hheld (.refl _ _), ?_⟩
  cases stage with
  | opening => cases hheld
  | readingLayout p name path =>
    have hearly : (Stage.readingLayout p name path).IsEarly := trivial
    exact fun _ => (step_early hspared r hearly hheld (.refl _ _)).1.held?
  | readingPage p layout =>
    have hearly : (Stage.readingPage p layout).IsEarly := trivial
    exact fun _ => (step_early hspared r hearly hheld (.refl _ _)).1.held?
  | ended x => cases hheld
  | settling p rendered rounds w =>
    cases hheld
    cases hdeadline : deadlineOf (s.engine r.engine).timeout with
    | error f =>
      rw [step_settling_error r rendered q rounds w hdeadline]
      exact fun _ => nofun
    | ok deadline =>
      cases hresult : (w.advance (some q) deadline rounds s.activity).1.result? with
      | none =>
        rw [step_settling_none r rendered q rounds w hdeadline hresult]
        rintro _ ⟨⟩
        rfl
      | some settled =>
        obtain ⟨log, hstep⟩ := step_settling_some r rendered q rounds w hdeadline hresult
        rw [hstep]
        exact fun _ => nofun

end Renders

/-- What becomes of the registry of a render from one stage to the next: it stays the same until it
is given up, or it is a new one. -/
structure Follows (count more : Nat) (stage next : Stage) : Prop where
  same : ∀ p q, stage.held? = some q → next.held? = some p → p = q
  fresh : ∀ p, stage.held? = none → next.held? = some p → p = count ∧ p < more

theorem Follows.step (stage : Stage) (r : Request) (s : Site) :
    Follows s.activity.registries.length (stage.step r s).2.activity.registries.length stage
      (stage.step r s).1 := by
  refine ⟨fun p q hq => (step_onlyIn r s hq).2 p, fun p hnone => ?_⟩
  cases stage with
  | opening => exact (opening_onlyIn r s none).2 p
  | ended x => exact nofun
  | _ => cases hnone

theorem Follows.cancel (count : Nat) (stage : Stage) : Follows count count stage stage.cancel where
  same p q hq hp := Option.some.inj ((stage.held?_cancel hp).symm.trans hq)
  fresh p hnone hp := by
    rw [stage.held?_cancel hp] at hnone
    cases hnone

namespace Worker

/-- What happens to the bindings of a task at once: nothing, or a scope is opened for a new registry,
or the innermost one is closed. -/
inductive Turn (count more : Nat) (w v : Worker) : Prop
  | same (inherited : v.inherited = w.inherited) (opened : v.opened = w.opened)
    (scopes : v.scopes = w.scopes)
  | opens (inherited : v.inherited = w.inherited) (opened : v.opened = count :: w.opened)
    (scopes : v.scopes = w.scopes.enter count) (room : count < more)
  | closes (inherited : v.inherited = w.inherited) (opened : v.opened = w.opened.tail)
    (scopes : v.scopes = w.scopes.leave)

variable {w v : Worker} {count more : Nat}

section Turns

variable {r : Request} {stage next : Stage} {rest : List Deed}

theorem opened_of_rendering (hdoing : w.doing = .rendering r stage rest) :
    w.opened = stage.held?.toList ++ w.frames.filterMap Frame.registry? := by
  rw [opened, hdoing]
  rfl

theorem opened_of_idle (hheld : w.doing.held? = none) :
    w.opened = w.frames.filterMap Frame.registry? := by
  rw [opened, hheld]
  rfl

theorem opened_follow :
    (w.follow r rest stage next).opened =
      next.held?.toList ++ w.frames.filterMap Frame.registry? := by
  rw [opened, Worker.follow]
  dsimp only
  cases hresult : next.result? with
  | none => rfl
  | some result =>
    rw [Stage.held?_of_result? (by rw [hresult]; rfl)]
    cases result <;> rfl

theorem turn_follow (hdoing : w.doing = .rendering r stage rest)
    (hnext : Follows count more stage next) : Turn count more w (w.follow r rest stage next) := by
  have hopened := opened_of_rendering hdoing
  have hopened' : (w.follow r rest stage next).opened =
      next.held?.toList ++ w.frames.filterMap Frame.registry? := opened_follow
  have hscopes : (w.follow r rest stage next).scopes =
      match stage.held?, next.held? with
      | none, some q => w.scopes.enter q
      | some _, none => w.scopes.leave
      | _, _ => w.scopes := rfl
  -- A render enters its scope when it opens its registry, and leaves it when it gives that up.
  cases hheld : stage.held? with
  | none =>
    rw [hheld] at hopened hscopes
    cases hheld' : next.held? with
    | none =>
      rw [hheld'] at hopened' hscopes
      exact .same rfl (hopened'.trans hopened.symm) hscopes
    | some p =>
      obtain ⟨rfl, hroom⟩ := hnext.fresh p hheld hheld'
      rw [hheld'] at hopened' hscopes
      exact .opens rfl (hopened'.trans (congrArg _ hopened.symm)) hscopes hroom
  | some q =>
    rw [hheld] at hopened hscopes
    cases hheld' : next.held? with
    | none =>
      rw [hheld'] at hopened' hscopes
      exact .closes rfl (hopened'.trans (congrArg List.tail hopened.symm)) hscopes
    | some p =>
      obtain rfl := hnext.same p q hheld hheld'
      rw [hheld'] at hopened' hscopes
      exact .same rfl (hopened'.trans hopened.symm) hscopes

theorem turn_goOn (hheld : w.doing.held? = none) {α : Type} (result : Except Stop α) :
    Turn count more w (w.goOn rest result) := by
  have hopened := opened_of_idle hheld
  cases result with
  | ok a => exact .same rfl hopened.symm rfl
  | error e => exact .same rfl hopened.symm rfl

theorem turn_close (hheld : w.doing.held? = none) : Turn count more w w.close := by
  have hopened := opened_of_idle hheld
  rw [Worker.close]
  split
  · next hframes _ =>
    rw [hframes] at hopened
    exact .closes rfl (congrArg List.tail hopened.symm) rfl
  · next hframes hdoing =>
    rw [hframes] at hopened
    refine .closes rfl ?_ rfl
    rw [opened_of_idle (by rw [hdoing]; rfl), hopened]
    rfl
  · next hframes _ =>
    rw [hframes] at hopened
    exact .same rfl hopened.symm rfl
  · next catches handler rest frames e hframes _ =>
    rw [hframes] at hopened
    refine .same rfl ?_ rfl
    rw [opened_of_idle ?_, hopened]
    · rfl
    · dsimp only
      split <;> rfl
  · exact .same rfl rfl rfl

/-- What the bindings of a task can become in one step, or when it is cancelled. -/
theorem turn_step (w : Worker) (s : Site) :
    Turn s.activity.registries.length (w.step s).2.1.activity.registries.length w (w.step s).1 := by
  obtain ⟨inherited, scopes, frames, doing⟩ := w
  cases doing with
  | raising e => exact turn_close rfl
  | rendering r stage rest => exact turn_follow rfl (.step stage r s)
  | going deeds =>
    cases deeds with
    | nil => exact turn_close rfl
    | cons deed rest =>
      cases deed with
      | scope body =>
        refine .opens rfl rfl rfl ?_
        show s.activity.registries.length < s.activity.openRegistry.2.registries.length
        rw [Activity.openRegistry, List.length_append]
        exact Nat.lt_succ_self _
      | call f args kwargs => exact turn_goOn rfl _
      | resolve helper args kwargs => exact turn_goOn rfl _
      | _ => exact .same rfl rfl rfl

theorem turn_cancel (w : Worker) (count : Nat) : Turn count count w w.cancel := by
  obtain ⟨inherited, scopes, frames, doing⟩ := w
  cases doing with
  | raising e => exact .same rfl rfl rfl
  | rendering r stage rest => exact turn_follow rfl (.cancel count stage)
  | going deeds =>
    cases deeds with
    | cons deed rest => exact .same rfl rfl rfl
    | nil => cases frames <;> exact .same rfl rfl rfl

theorem Turn.inherited_eq (h : Turn count more w v) : v.inherited = w.inherited := by
  cases h with
  | same inherited => exact inherited
  | opens inherited => exact inherited
  | closes inherited => exact inherited

/-- A scope that is opened is that of the new registry. -/
theorem Turn.eq_of_opened (h : Turn count more w v) {q : Nat} (hopened : v.opened = q :: w.opened) :
    q = count ∧ q < more := by
  cases h with
  | same _ opened =>
    have hlength := congrArg List.length (opened.symm.trans hopened)
    exact absurd hlength (Nat.ne_of_lt (Nat.lt_succ_self _))
  | opens _ opened _ room =>
    obtain ⟨rfl, -⟩ := List.cons.inj (opened.symm.trans hopened)
    exact ⟨rfl, room⟩
  | closes _ opened =>
    have hlength := congrArg List.length (opened.symm.trans hopened)
    rw [List.length_tail, List.length_cons] at hlength
    omega

theorem close_scope {q : Nat} {frames : List Frame} (hframes : w.frames = .scope q rest :: frames)
    (hends : w.doing = .going [] ∨ ∃ e, w.doing = .raising e) :
    w.close.frames = frames ∧ w.close.opened = w.opened.tail := by
  obtain ⟨inherited, scopes, frames', doing⟩ := w
  dsimp only at hframes hends
  subst hframes
  obtain rfl | ⟨e, rfl⟩ := hends <;> exact ⟨rfl, rfl⟩

end Turns

theorem inherited_of_started {s : Site} (hv : v ∈ (w.step s).2.2) :
    v.inherited = w.scopes.innermost? ∧ v.opened = [] ∧ v.scopes = w.scopes.fork := by
  obtain ⟨inherited, scopes, frames, doing⟩ := w
  cases doing with
  | raising e => cases hv
  | rendering r stage rest => cases hv
  | going deeds =>
    cases deeds with
    | nil => cases hv
    | cons deed rest =>
      cases deed with
      | spawn body =>
        rw [List.mem_singleton.mp hv]
        exact ⟨rfl, rfl, rfl⟩
      | _ => cases hv

/-- A task whose bindings are those of the scopes that it has open. `count` is the number of
registries. -/
structure Kept (count : Nat) (w : Worker) : Prop where
  scopes : w.scopes = .of w.inherited w.opened
  room : ∀ q ∈ w.inherited.toList ++ w.opened, q < count

theorem Kept.mono (h : w.Kept count) (hmore : count ≤ more) : w.Kept more :=
  { h with room := fun q hq => Nat.lt_of_lt_of_le (h.room q hq) hmore }

theorem Kept.innermost? (h : w.Kept count) :
    w.scopes.innermost? = w.opened.head?.or w.inherited := by
  rw [h.scopes, Scopes.innermost?_of]

theorem Kept.lt_of_innermost? (h : w.Kept count) {q : Nat} (hq : w.scopes.innermost? = some q) :
    q < count := by
  refine h.room q ?_
  rw [h.innermost?] at hq
  cases hopened : w.opened with
  | nil =>
    rw [hopened] at hq
    rw [show w.inherited = some q from hq]
    simp
  | cons p more =>
    rw [hopened] at hq
    cases hq
    simp

theorem Kept.turn (h : w.Kept count) (hturn : Turn count more w v) (hmore : count ≤ more) :
    v.Kept more := by
  have hroom := (h.mono hmore).room
  cases hturn with
  | same inherited opened scopes =>
    refine ⟨?_, ?_⟩
    · rw [inherited, opened, scopes]
      exact h.scopes
    · rw [inherited, opened]
      exact hroom
  | opens inherited opened scopes room =>
    refine ⟨?_, ?_⟩
    · rw [inherited, opened, scopes, h.scopes]
      rfl
    · rw [inherited, opened]
      intro q hq
      rcases List.mem_append.mp hq with hq | hq
      · exact hroom q (List.mem_append_left _ hq)
      rcases List.mem_cons.mp hq with rfl | hq
      · exact room
      · exact hroom q (List.mem_append_right _ hq)
  | closes inherited opened scopes =>
    refine ⟨?_, ?_⟩
    · rw [inherited, opened, scopes, h.scopes]
      cases w.opened <;> rfl
    · rw [inherited, opened]
      intro q hq
      rcases List.mem_append.mp hq with hq | hq
      · exact hroom q (List.mem_append_left _ hq)
      · exact hroom q (List.mem_append_right _ (List.mem_of_mem_tail hq))

theorem Kept.started {s : Site} (h : w.Kept count) (hv : v ∈ (w.step s).2.2) : v.Kept count := by
  obtain ⟨hinherited, hopened, hscopes⟩ := inherited_of_started hv
  refine ⟨?_, ?_⟩
  · rw [hinherited, hopened, hscopes]
    rfl
  · rw [hinherited, hopened, List.append_nil]
    exact fun q hq => h.lt_of_innermost? (Option.mem_toList.mp hq)

/-- No registry changes in a step but the one in scope. -/
theorem Kept.onlyIn (h : w.Kept count) (s : Site) :
    s.activity.OnlyIn w.scopes.innermost? (w.step s).2.1.activity := by
  obtain ⟨inherited, scopes, frames, doing⟩ := w
  cases doing with
  | raising e => exact .refl _ _
  | rendering r stage rest =>
    -- The registry of a render that is under way is the one in scope.
    cases hheld : stage.held? with
    | some q =>
      have hinnermost := h.innermost?
      rw [opened_of_rendering rfl, hheld] at hinnermost
      rw [hinnermost]
      exact (step_onlyIn r s hheld).1
    | none =>
      cases stage with
      | opening => exact (opening_onlyIn r s scopes.innermost?).1
      | ended x => exact .refl _ _
      | _ => cases hheld
  | going deeds =>
    cases deeds with
    | nil => exact .refl _ _
    | cons deed rest =>
      cases deed with
      | call f args kwargs => exact .callNow scopes.innermost? f args kwargs s.activity
      | resolve helper args kwargs =>
        exact (Activity.OnlyIn.refl scopes.innermost? s.activity).putOff "" helper args kwargs
      | scope body => exact .openRegistry scopes.innermost? s.activity
      | _ => exact .refl _ _

theorem Kept.step {s : Site} (h : w.Kept s.activity.registries.length) :
    (w.step s).1.Kept (w.step s).2.1.activity.registries.length :=
  h.turn (turn_step w s) (h.onlyIn s).length

theorem Kept.cancel (h : w.Kept count) : w.cancel.Kept count :=
  h.turn (turn_cancel w count) (Nat.le_refl _)

/-- From when a task, `w`, opened a scope for a registry: as long as the scope is open, those that
were open before are below it. -/
structure Since (q : Nat) (w v : Worker) : Prop where
  inherited : v.inherited = w.inherited
  above : q ∈ v.opened → ∃ inner, v.opened = inner ++ q :: w.opened ∧ q ∉ inner

variable {q : Nat} {u : Worker}

theorem Since.opened_of_closed (h : Since q w v) (hopen : q ∈ v.opened) (hturn : Turn count more v u)
    (hclosed : q ∉ u.opened) : u.opened = w.opened := by
  cases hturn with
  | same inherited opened => exact absurd (opened ▸ hopen) hclosed
  | opens inherited opened => exact absurd (opened ▸ List.mem_cons_of_mem count hopen) hclosed
  | closes inherited opened =>
    obtain ⟨inner, heq, -⟩ := h.above hopen
    cases inner with
    | nil => rw [opened, heq]; rfl
    | cons p inner =>
      refine absurd ?_ hclosed
      rw [opened, heq]
      exact List.mem_append_right inner List.mem_cons_self

/-- Once the scope is closed, what was open and in scope before is so again. -/
theorem Since.restored (h : Since q w v) (hopen : q ∈ v.opened) (hturn : Turn count more v u)
    (hclosed : q ∉ u.opened) {before after : Nat} (hw : w.Kept before) (hu : u.Kept after) :
    u.opened = w.opened ∧ u.scopes.innermost? = w.scopes.innermost? := by
  have hopened := h.opened_of_closed hopen hturn hclosed
  refine ⟨hopened, ?_⟩
  rw [hu.innermost?, hw.innermost?, hopened, hturn.inherited_eq, h.inherited]

theorem Since.turn (h : Since q w v) (hq : q < count) (hnew : q ∉ w.opened)
    (hturn : Turn count more v u) : Since q w u := by
  refine ⟨hturn.inherited_eq.trans h.inherited, fun hopen => ?_⟩
  cases hturn with
  | same inherited opened =>
    rw [opened] at hopen ⊢
    exact h.above hopen
  | opens inherited opened =>
    -- The new registry is another one, so the order remains.
    rw [opened] at hopen ⊢
    have hne : q ≠ count := Nat.ne_of_lt hq
    obtain ⟨inner, heq, hinner⟩ := h.above ((List.mem_cons.mp hopen).resolve_left hne)
    refine ⟨count :: inner, congrArg (count :: ·) heq, ?_⟩
    exact List.not_mem_cons_of_ne_of_not_mem hne hinner
  | closes inherited opened =>
    -- The scope itself is not the one that is closed, for it is open still.
    rw [opened] at hopen ⊢
    obtain ⟨inner, heq, hinner⟩ := h.above (List.mem_of_mem_tail hopen)
    rw [heq] at hopen ⊢
    cases inner with
    | nil => exact absurd hopen hnew
    | cons p inner => exact ⟨inner, rfl, fun hmem => hinner (List.mem_cons_of_mem p hmem)⟩

end Worker

namespace Crowd

/-- Tasks that have not begun, outside of any scope. -/
def start (s : Site) (programs : List (List Deed)) : Crowd :=
  ⟨s, programs.map fun deeds => { doing := .going deeds }⟩

def Kept (x : Crowd) : Prop := ∀ w ∈ x.workers, w.Kept x.site.activity.registries.length

theorem kept_start (s : Site) (programs : List (List Deed)) : (start s programs).Kept := by
  intro w hw
  obtain ⟨deeds, -, rfl⟩ := List.mem_map.mp hw
  exact ⟨rfl, fun _ => nofun⟩

theorem Kept.move {x y : Crowd} (h : x.Kept) (hmove : Move x y) : y.Kept := by
  cases hmove with
  | @step i w hw =>
    have hkept := h w (List.mem_of_getElem? hw)
    intro v hv
    rcases List.mem_append.mp hv with hv | hv
    · rcases List.mem_or_eq_of_mem_set hv with hv | rfl
      · exact (h v hv).mono (hkept.onlyIn x.site).length
      · exact hkept.step
    · exact (hkept.started hv).mono (hkept.onlyIn x.site).length
  | @cancelled i w hw =>
    intro v hv
    rcases List.mem_or_eq_of_mem_set hv with hv | rfl
    · exact h v hv
    · exact (h w (List.mem_of_getElem? hw)).cancel
  | elsewhere s hlength => exact fun v hv => (h v hv).mono hlength

theorem Kept.moves {x y : Crowd} (h : x.Kept) (hmoves : ReflTransGen Move x y) : y.Kept := by
  induction hmoves with
  | refl => exact h
  | tail _ hmove ih => exact ih.move hmove

theorem goOn_getElem? (x : Crowd) {i j : Nat} (w : Worker) (hi : i < x.workers.length) :
    (x.goOn j w).workers[i]? = (x.workers.set j (w.step x.site).1)[i]? :=
  List.getElem?_append_left (by rwa [List.length_set])

/-- What becomes of one task while all of them go on, and no registry is lost. -/
theorem Kept.turn_of_move {x y : Crowd} (h : x.Kept) (hmove : Move x y) {i : Nat} {v : Worker}
    (hv : x.workers[i]? = some v) :
    ∃ u, y.workers[i]? = some u ∧
      Worker.Turn x.site.activity.registries.length y.site.activity.registries.length v u ∧
      x.site.activity.registries.length ≤ y.site.activity.registries.length := by
  have hi : i < x.workers.length := (List.getElem?_eq_some_iff.mp hv).1
  cases hmove with
  | @step j w hw =>
    have hmore := ((h w (List.mem_of_getElem? hw)).onlyIn x.site).length
    have hat := x.goOn_getElem? (j := j) w hi
    by_cases hij : j = i
    · subst hij
      obtain rfl := Option.some.inj (hw.symm.trans hv)
      exact ⟨_, hat.trans (List.getElem?_set_self hi), Worker.turn_step w x.site, hmore⟩
    · exact ⟨v, hat.trans ((List.getElem?_set_ne hij).trans hv), .same rfl rfl rfl, hmore⟩
  | @cancelled j w hw =>
    by_cases hij : j = i
    · subst hij
      obtain rfl := Option.some.inj (hw.symm.trans hv)
      exact ⟨_, List.getElem?_set_self hi, Worker.turn_cancel w _, Nat.le_refl _⟩
    · exact ⟨v, (List.getElem?_set_ne hij).trans hv, .same rfl rfl rfl, Nat.le_refl _⟩
  | elsewhere s hlength => exact ⟨v, hv, .same rfl rfl rfl, hlength⟩

theorem Kept.since {x y : Crowd} (h : x.Kept) {i q : Nat} {w v : Worker}
    (hv : x.workers[i]? = some v) (hsince : Worker.Since q w v)
    (hq : q < x.site.activity.registries.length) (hnew : q ∉ w.opened)
    (hmoves : ReflTransGen Move x y) :
    q < y.site.activity.registries.length ∧ ∃ u, y.workers[i]? = some u ∧ Worker.Since q w u := by
  induction hmoves with
  | refl => exact ⟨hq, v, hv, hsince⟩
  | @tail y z hmoves hmove ih =>
    obtain ⟨hq', u, hu, hsince'⟩ := ih
    obtain ⟨u', hu', hturn, hmore⟩ := (h.moves hmoves).turn_of_move hmove hu
    exact ⟨Nat.lt_of_lt_of_le hq' hmore, u', hu', hsince'.turn hq' hnew hturn⟩

end Crowd

/-- The call that a deed puts off, with its name. -/
def Deed.putsOff? : Deed → Option (String × Nat × List Value × Locals)
  | .resolve helper args kwargs => some ("", helper, args, kwargs)
  | .call (.deferred name helper) args kwargs => some (name, helper, args, kwargs)
  | _ => none

/-- A deed that puts off a call does so in the scope of its task. -/
theorem Worker.step_putOff {w : Worker} {deed : Deed} {rest : List Deed} {name : String}
    {helper : Nat} {args : List Value} {kwargs : Locals} (s : Site)
    (hdoing : w.doing = .going (deed :: rest))
    (hdeed : deed.putsOff? = some (name, helper, args, kwargs)) :
    w.step s =
      let (result, activity) := s.activity.putOff w.scopes.innermost? name helper args kwargs
      (w.goOn rest (result.mapError .fault), { s with activity }, []) := by
  rw [Worker.step, hdoing]
  cases deed with
  | resolve helper args kwargs =>
    cases hdeed
    rfl
  | call f args kwargs =>
    cases f with
    | deferred name helper =>
      cases hdeed
      dsimp only
      cases w.scopes.innermost? <;> rfl
    | _ => cases hdeed
  | _ => cases hdeed

/-- What holds of the scopes of a task, whatever it does next. -/
structure Worker.Disciplined (w : Worker) (s : Site) : Prop where
  /-- In scope is the registry of the innermost open scope, or else what the task inherited. -/
  current : w.scopes.current =
    match w.opened.head?.or w.inherited with
    | some q => .ok q
    | none => .error .noRenderInProgress
  /-- A task keeps what it inherited, and hands on what is in scope for it. -/
  inherits : (w.step s).1.inherited = w.inherited ∧ w.cancel.inherited = w.inherited ∧
    ∀ v ∈ (w.step s).2.2, v.inherited = w.scopes.innermost? ∧ v.opened = []
  /-- Scopes are opened one at a time, with a new registry, and closed from the innermost one on. -/
  stack : (w.step s).1.opened = w.opened ∨
    (w.step s).1.opened = s.activity.registries.length :: w.opened ∨
    (w.step s).1.opened = w.opened.tail
  enters : ∀ body rest, w.doing = .going (.scope body :: rest) →
    (w.step s).1.opened = s.activity.registries.length :: w.opened
  /-- A scope is left when its body ends, with or without an error. -/
  leaves : ∀ q rest frames, w.frames = .scope q rest :: frames →
    (w.doing = .going [] ∨ ∃ e, w.doing = .raising e) →
    (w.step s).1.frames = frames ∧ (w.step s).1.opened = w.opened.tail
  /-- No registry changes but the one in scope. -/
  spares : ∀ p < s.activity.registries.length, w.scopes.innermost? ≠ some p →
    (w.step s).2.1.activity.registry p = s.activity.registry p
  /-- A render that begins leaves all of them as they are, and opens its own. -/
  begins : ∀ r rest, w.doing = .rendering r .opening rest →
    ∀ p < s.activity.registries.length, (w.step s).2.1.activity.registry p = s.activity.registry p
  /-- A call is put off to the registry in scope. -/
  putsOff : ∀ deed rest name helper args kwargs q, w.doing = .going (deed :: rest) →
    deed.putsOff? = some (name, helper, args, kwargs) → w.scopes.innermost? = some q →
    (w.step s).1.doing = .going rest ∧ ∃ called, (name ≠ "" → called = name) ∧
      (w.step s).2.1.activity.registry q =
        ((s.activity.registry q).register called helper args kwargs).2
  /-- Without a registry in scope it is refused, and nothing changes. -/
  refuses : ∀ deed rest name helper args kwargs, w.doing = .going (deed :: rest) →
    deed.putsOff? = some (name, helper, args, kwargs) → w.scopes.innermost? = none →
    (∃ f : Fault, f.kind = "RuntimeError" ∧ (w.step s).1.doing = .raising (.fault f)) ∧
      (w.step s).1.scopes = w.scopes ∧ (w.step s).2 = (s, [])

theorem Worker.Kept.disciplined {w : Worker} {s : Site} (h : w.Kept s.activity.registries.length) :
    w.Disciplined s where
  current := by
    rw [← h.innermost?]
    rfl
  inherits := ⟨(turn_step w s).inherited_eq, (turn_cancel w 0).inherited_eq, fun v hv =>
    ⟨(inherited_of_started hv).1, (inherited_of_started hv).2.1⟩⟩
  stack := by
    cases turn_step w s with
    | same _ opened => exact .inl opened
    | opens _ opened => exact .inr (.inl opened)
    | closes _ opened => exact .inr (.inr opened)
  enters body rest hdoing := by
    have hheld : w.doing.held? = none := by
      rw [hdoing]
      rfl
    rw [opened_of_idle hheld, Worker.step, hdoing]
    rfl
  leaves q rest frames hframes hends := by
    have hclose : (w.step s).1 = w.close := by
      rw [Worker.step]
      obtain hdoing | ⟨e, hdoing⟩ := hends <;> rw [hdoing]
    rw [hclose]
    exact close_scope hframes hends
  spares := (h.onlyIn s).others
  begins r rest hdoing p hp := by
    rw [Worker.step, hdoing]
    exact (opening_onlyIn r s none).1.others p hp nofun
  putsOff deed rest name helper args kwargs q hdoing hdeed hq := by
    rw [step_putOff s hdoing hdeed, hq]
    refine ⟨rfl, _, fun hname => ?_,
      s.activity.registry_setRegistry_self q _ (h.lt_of_innermost? hq)⟩
    rw [if_neg]
    rwa [String.isEmpty_iff]
  refuses deed rest name helper args kwargs hdoing hdeed hnone := by
    rw [step_putOff s hdoing hdeed, hnone]
    exact ⟨⟨.noRenderInProgress, rfl, rfl⟩, rfl, rfl⟩

/-- Tasks open scopes within scopes, render, start other tasks, fail and are cancelled, in any order.
Each keeps to its scopes: in scope is the registry of the innermost one that it has open, or else
what it inherited; calls are put off there and nowhere else, and refused where nothing is in scope.
From when a task `w` opens a scope, however all of them go on: the step of the task that closes the
scope, or its cancellation if that does, brings back what was in scope when it was opened. -/
theorem scope_discipline (s : Site) (programs : List (List Deed)) {x : Crowd}
    (hx : ReflTransGen Crowd.Move (.start s programs) x) {i : Nat} {w : Worker}
    (hw : x.workers[i]? = some w) :
    w.Disciplined x.site ∧
      ∀ q y v u, (w.step x.site).1.opened = q :: w.opened →
        ReflTransGen Crowd.Move (x.goOn i w) y → y.workers[i]? = some v →
        (u = (v.step y.site).1 ∨ u = v.cancel) → q ∈ v.opened → q ∉ u.opened →
        u.opened = w.opened ∧ u.scopes.innermost? = w.scopes.innermost? := by
  have hkept := (Crowd.kept_start s programs).moves hx
  have hkeptw := hkept w (List.mem_of_getElem? hw)
  refine ⟨hkeptw.disciplined, fun q y v u hopens hy hv hu hopen hclosed => ?_⟩
  obtain ⟨heq, hq⟩ := (Worker.turn_step w x.site).eq_of_opened hopens
  have hnew : q ∉ w.opened := fun hmem =>
    Nat.ne_of_lt (hkeptw.room q (List.mem_append_right _ hmem)) heq
  have hfirst : Worker.Since q w (w.step x.site).1 :=
    ⟨(Worker.turn_step w x.site).inherited_eq, fun _ => ⟨[], hopens, List.not_mem_nil⟩⟩
  have hi : i < x.workers.length := (List.getElem?_eq_some_iff.mp hw).1
  have hgone := hkept.move (.step hw)
  obtain ⟨-, v', hv', hsince⟩ := hgone.since
    ((x.goOn_getElem? w hi).trans (List.getElem?_set_self hi)) hfirst hq hnew hy
  obtain rfl := Option.some.inj (hv'.symm.trans hv)
  have hkeptv := (hgone.moves hy) _ (List.mem_of_getElem? hv)
  obtain rfl | rfl := hu
  · exact hsince.restored hopen (Worker.turn_step _ _) hclosed hkeptw hkeptv.step
  · exact hsince.restored hopen (Worker.turn_cancel _ 0) hclosed hkeptw hkeptv.cancel

/-- No files, no helpers and no registries. -/
def emptySite : Site := { files := ⟨[], []⟩, activity := { ids := fun _ => "a" } }

/-- A task that goes on after a scope that failed. -/
def failingScope : List Deed :=
  [.attempt [.scope [.fail (.fault .tooDeep)]] (fun _ => true) [], .resolve 0 [] []]

/-- The task when it is about to open its scope. -/
def beforeScope : Worker :=
  { frames := [.attempt (fun _ => true) [] [.resolve 0 [] []]]
    doing := .going [.scope [.fail (.fault .tooDeep)]] }

theorem moves_beforeScope :
    ReflTransGen Crowd.Move (.start emptySite [failingScope]) ⟨emptySite, [beforeScope]⟩ := by
  have hmove : Crowd.Move (.start emptySite [failingScope])
      (Crowd.goOn (.start emptySite [failingScope]) 0 { doing := .going failingScope }) := .step rfl
  exact .single hmove

/-- The error leaves the scope, and nothing is in scope as before. -/
theorem scope_discipline_of_failing_scope :
    beforeScope.scopes.current = .error .noRenderInProgress ∧
      (beforeScope.step emptySite).1.opened = [0] ∧
      ∃ y v, ReflTransGen Crowd.Move (Crowd.goOn ⟨emptySite, [beforeScope]⟩ 0 beforeScope) y ∧
        y.workers[0]? = some v ∧ v.opened = [0] ∧ (∃ e, v.doing = .raising e) ∧
        (v.step y.site).1.scopes.innermost? = none := by
  obtain ⟨hdisciplined, hrestores⟩ := scope_discipline emptySite [failingScope] moves_beforeScope
    (i := 0) (w := beforeScope) rfl
  refine ⟨hdisciplined.current, hdisciplined.enters _ _ rfl, _, _, .single (.step (i := 0) rfl), rfl,
    rfl, ⟨_, rfl⟩, ?_⟩
  exact (hrestores 0 _ _ _ rfl (.single (.step (i := 0) rfl)) rfl (.inl rfl) (by decide) (by decide)).2

end DeferredViews.View
