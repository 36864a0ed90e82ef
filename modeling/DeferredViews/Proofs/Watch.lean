import DeferredViews.Proofs.Verdict

/-!
# No task outlives its wait

A wait does not keep an eye on all its tasks all the time. While it goes on by itself it waits for
every task; once a deadline has passed it waits for those that were unfinished then; once it is
cancelled it waits for all of them, or for those that it was still waiting for. What it no longer
waits for has finished, so whenever a wait is over, all its tasks are, however they took their turns
and whatever stopped them. A wait that was cancelled ends as cancelled.
-/
namespace DeferredViews.Deferred

namespace Task

/-- What a task may become: its call stays, and once finished it stays finished. Nothing else is
asked of it; it may go on after it was told to stop. -/
structure Lasts (t u : Task) : Prop where
  call : u.call = t.call
  finished : t.isFinished = true → u.isFinished = true

/-- What a task becomes by a step of its own. -/
def Steps (t u : Task) : Prop := ∃ scope a, u = (t.step scope a).1

theorem Steps.lasts {t u : Task} (h : t.Steps u) : t.Lasts u := by
  obtain ⟨scope, a, rfl⟩ := h
  exact ⟨call_step scope t a, fun hfinished => isFinished_step (.inl hfinished) scope a⟩

theorem isFinished_cancel (t : Task) : t.cancel.isFinished = t.isFinished := by
  rw [isFinished, isFinished, outcome?_cancel]

theorem cancel_of_finished {t : Task} (h : t.isFinished = true) : t.cancel = t := by
  obtain ⟨o, ho⟩ := Option.isSome_iff_exists.mp h
  rw [cancel, state_of_outcome? ho]

theorem state_cancel {t : Task} (h : t.isFinished = false) :
    ∃ hung, t.cancel.state = .cancelling hung := by
  rcases stopping_cancel t with hfinished | hstopping
  · rw [isFinished_cancel, h] at hfinished
    cases hfinished
  · exact hstopping

end Task

/-- A wait with its tasks, each marked if it is being waited for. -/
structure Watch where
  tasks : List (Task × Bool)
  ending : Option Ending := none

namespace Watch

/-- Every call becomes a task, and all are waited for. -/
def begin (calls : List Pending) : Watch := ⟨calls.map fun c => ({ call := c }, true), none⟩

/-- The wait without its marks. -/
def settling (w : Watch) : Settling := ⟨w.tasks.map (·.1), w.ending⟩

/-- The deadline has passed: what is unfinished is told to stop, and is what is waited for. -/
def expire (w : Watch) : Watch :=
  match w.ending with
  | some _ => w
  | none =>
    match w.settling.tasks.filter (!·.isFinished) with
    | [] => w
    | unfinished =>
      ⟨w.tasks.map fun t => if t.1.isFinished then (t.1, false) else (t.1.cancel, true),
        some (.deadline (unfinished.map (·.call.name)))⟩

/-- The wait is cancelled. If it was going on by itself, all tasks are told to stop and all are
waited for; otherwise those that are waited for are told to stop. -/
def cancel (w : Watch) : Watch :=
  match w.ending with
  | none => ⟨w.tasks.map fun t => (t.1.cancel, true), some .cancelled⟩
  | some _ =>
    ⟨w.tasks.map fun t => (if t.2 then t.1.cancel else t.1, t.2), some .cancelled⟩

/-- How the wait ends, once everything that is waited for has finished. -/
def exit? (w : Watch) : Option Settled :=
  if w.tasks.all fun t => !t.2 || t.1.isFinished then
    some (match w.ending with
      | none => .ofTasks w.settling.tasks
      | some (.deadline stalled) => .timedOut stalled
      | some .cancelled => .cancelled "")
  else none

/-- What may happen to a wait at any time: a task goes on, the deadline passes, or the wait is
cancelled, be it for the first time or again. -/
inductive Next (goes : Task → Task → Prop) : Watch → Watch → Prop
  | task {w : Watch} (i : Nat) {t u : Task} {marked : Bool} (h : w.tasks[i]? = some (t, marked))
    (hgo : goes t u) : Next goes w { w with tasks := w.tasks.set i (u, marked) }
  | deadline (w : Watch) : Next goes w w.expire
  | cancelled (w : Watch) : Next goes w w.cancel

theorem Next.mono {goes goes' : Task → Task → Prop} (h : ∀ t u, goes t u → goes' t u)
    {w v : Watch} (hnext : Next goes w v) : Next goes' w v := by
  cases hnext with
  | task i ht hgo => exact .task i ht (h _ _ hgo)
  | deadline => exact .deadline w
  | cancelled => exact .cancelled w

/-- Anything that may happen to a wait, in any order and any number. -/
abbrev Course (goes : Task → Task → Prop) := Relation.ReflTransGen (Next goes)

theorem course_mono {goes goes' : Task → Task → Prop} (h : ∀ t u, goes t u → goes' t u)
    {w v : Watch} (hcourse : Course goes w v) : Course goes' w v := by
  induction hcourse with
  | refl => exact .refl
  | tail _ hnext ih => exact ih.tail (hnext.mono h)

/-- What is not waited for has finished. -/
def Covers (w : Watch) : Prop := ∀ t, (t, false) ∈ w.tasks → t.isFinished = true

theorem covers_begin (calls : List Pending) : (begin calls).Covers := by
  intro t ht
  obtain ⟨c, -, heq⟩ := List.mem_map.mp ht
  cases heq

theorem Covers.expire {w : Watch} (h : w.Covers) : w.expire.Covers := by
  rw [Watch.expire]
  split
  · exact h
  split
  · exact h
  intro t ht
  obtain ⟨u, -, heq⟩ := List.mem_map.mp ht
  split at heq
  · next hfinished =>
    cases heq
    exact hfinished
  · cases heq

theorem Covers.cancel {w : Watch} (h : w.Covers) : w.cancel.Covers := by
  rw [Watch.cancel]
  split
  · intro t ht
    obtain ⟨u, -, heq⟩ := List.mem_map.mp ht
    cases heq
  · intro t ht
    obtain ⟨⟨u, marked⟩, hu, heq⟩ := List.mem_map.mp ht
    cases marked with
    | true => cases heq
    | false =>
      cases heq
      exact h u hu

/-- Where everything else has finished, all is finished once what is waited for is. -/
theorem Covers.exit?_eq {w : Watch} (h : w.Covers) : w.exit? = w.settling.result? := by
  -- What is not marked has finished, so to ask the marked tasks is to ask all of them.
  have hall : (w.tasks.all fun t => !t.2 || t.1.isFinished) = w.settling.allFinished := by
    rw [Settling.allFinished, settling, List.all_map, Bool.eq_iff_iff, List.all_eq_true,
      List.all_eq_true]
    refine forall₂_congr fun t ht => ?_
    obtain ⟨t, marked⟩ := t
    cases marked with
    | true => rfl
    | false => simp [h t ht]
  rw [exit?, Settling.result?, hall]
  rfl

/-- To stop what is unfinished is to stop everything: what has finished stays as it is. -/
theorem settling_expire (w : Watch) : w.expire.settling = w.settling.expire := by
  have htasks : (w.tasks.map fun t => if t.1.isFinished then (t.1, false) else
      (t.1.cancel, true)).map (·.1) = (w.tasks.map (·.1)).map Task.cancel := by
    rw [List.map_map, List.map_map]
    apply List.map_congr_left
    intro t _
    dsimp only [Function.comp_apply]
    split
    · next hfinished => exact (Task.cancel_of_finished hfinished).symm
    · rfl
  rw [expire, Settling.expire]
  show settling (match w.ending with | some _ => _ | none => _) = _
  cases hending : w.ending with
  | some e => simp only [settling, hending]
  | none =>
    simp only [settling, hending]
    cases hunfinished : (w.tasks.map (·.1)).filter (!·.isFinished) with
    | nil => simp only [hending]
    | cons t more => simp only [htasks]

theorem Covers.settling_cancel {w : Watch} (h : w.Covers) :
    w.cancel.settling = w.settling.cancel := by
  rw [Watch.cancel, Settling.cancel]
  split
  · simp only [settling, List.map_map]
    rfl
  · simp only [settling, List.map_map]
    congr 1
    refine List.map_congr_left fun t ht => ?_
    obtain ⟨t, marked⟩ := t
    cases marked with
    | true => rfl
    | false => exact (Task.cancel_of_finished (h t ht)).symm

/-- When a wait is cancelled, every unfinished task is told to stop and is waited for. -/
theorem Covers.getElem?_cancel {w : Watch} (h : w.Covers) {i : Nat} {t : Task} {marked : Bool}
    (ht : w.tasks[i]? = some (t, marked)) (hunfinished : t.isFinished = false) :
    w.cancel.tasks[i]? = some (t.cancel, true) := by
  have hmarked : marked = true := by
    cases marked with
    | true => rfl
    | false =>
      rw [h t (List.mem_of_getElem? ht)] at hunfinished
      cases hunfinished
  subst hmarked
  rw [Watch.cancel]
  split
  · rw [List.getElem?_map, ht]
    rfl
  · rw [List.getElem?_map, ht]
    rfl

theorem ending_cancel (w : Watch) : w.cancel.ending = some .cancelled := by
  rw [cancel]
  split <;> rfl

theorem exit?_of_cancelled {w : Watch} (h : w.ending = some .cancelled) {s : Settled}
    (hs : w.exit? = some s) : s = .cancelled "" := by
  rw [exit?] at hs
  split at hs
  · rw [h] at hs
    exact (Option.some.inj hs).symm
  · cases hs

theorem stopping_cancel (w : Watch) (hw : w.Covers) : w.cancel.settling.Stopping := by
  rw [hw.settling_cancel]
  exact Settling.stopping_cancel w.settling

section Courses

variable {goes : Task → Task → Prop} {w v : Watch}

/-- One thing that happens: the calls stay, and what is no longer waited for has finished. -/
theorem Next.keeps (h : Next goes w v) (hgoes : ∀ t u, goes t u → t.Lasts u) (hw : w.Covers) :
    v.Covers ∧ v.settling.tasks.map (·.call) = w.settling.tasks.map (·.call) := by
  cases h with
  | @task i t u marked ht hgo =>
    have hlasts := hgoes t u hgo
    refine ⟨?_, ?_⟩
    · intro t' ht'
      rcases List.mem_or_eq_of_mem_set ht' with ht' | heq
      · exact hw t' ht'
      · cases heq
        exact hlasts.finished (hw t (List.mem_of_getElem? ht))
    · rw [settling, settling, List.map_map, List.map_map]
      exact map_set_of_eq ht hlasts.call
  | deadline =>
    refine ⟨hw.expire, ?_⟩
    rw [settling_expire, Settling.expire]
    split
    · rfl
    split
    · rfl
    · simp [List.map_map, Function.comp_def]
  | cancelled =>
    refine ⟨hw.cancel, ?_⟩
    rw [hw.settling_cancel, Settling.cancel]
    simp [List.map_map, Function.comp_def]

theorem keeps_of_course (h : Course goes w v) (hgoes : ∀ t u, goes t u → t.Lasts u)
    (hw : w.Covers) :
    v.Covers ∧ v.settling.tasks.map (·.call) = w.settling.tasks.map (·.call) := by
  induction h with
  | refl => exact ⟨hw, rfl⟩
  | tail _ hnext ih =>
    obtain ⟨hcovers, hcalls⟩ := ih
    have hstep := hnext.keeps hgoes hcovers
    exact ⟨hstep.1, hstep.2.trans hcalls⟩

theorem ending_of_course (h : Course goes w v) (hending : w.ending = some .cancelled) :
    v.ending = some .cancelled := by
  induction h with
  | refl => exact hending
  | tail _ hnext ih =>
    cases hnext with
    | task => exact ih
    | deadline =>
      rw [expire, ih]
      exact ih
    | cancelled =>
      rw [cancel, ih]

/-- Tasks that were told to stop have finished or are still stopping, as long as they only make
steps of their own. -/
theorem stopping_of_course (h : Course Task.Steps w v) (hstop : w.settling.Stopping) :
    v.settling.Stopping := by
  -- A step of a stopping task finishes it, and a task that is told to stop is one or has finished.
  induction h with
  | refl => exact hstop
  | tail _ hnext ih =>
    cases hnext with
    | @task i t u marked ht hgo =>
      obtain ⟨scope, a, rfl⟩ := hgo
      intro t' ht'
      simp only [settling, List.map_set] at ht'
      rcases List.mem_or_eq_of_mem_set ht' with ht' | rfl
      · exact ih t' ht'
      · refine .inl (Task.isFinished_step (ih t ?_) scope a)
        exact List.mem_map.mpr ⟨(t, marked), List.mem_of_getElem? ht, rfl⟩
    | deadline =>
      rw [settling_expire, Settling.expire]
      split
      · exact ih
      split
      · exact ih
      · intro t ht
        obtain ⟨u, -, rfl⟩ := List.mem_map.mp ht
        exact Task.stopping_cancel u
    | cancelled =>
      intro t ht
      obtain ⟨⟨u, marked⟩, hu, rfl⟩ := List.mem_map.mp ht
      rw [cancel] at hu
      split at hu
      · obtain ⟨v, -, heq⟩ := List.mem_map.mp hu
        cases heq
        exact Task.stopping_cancel v.1
      · obtain ⟨v, hv, heq⟩ := List.mem_map.mp hu
        cases heq
        split
        · exact Task.stopping_cancel v.1
        · exact ih v.1 (List.mem_map.mpr ⟨v, hv, rfl⟩)

end Courses

theorem course_stepAll (scope : Option Nat) (ending : Option Ending)
    (before tasks : List (Task × Bool)) (a : Activity) :
    ∃ after, Course Task.Steps ⟨before ++ tasks, ending⟩ ⟨before ++ after, ending⟩ ∧
      after.map (·.1) = (Settling.stepAll scope (tasks.map (·.1)) a).1 := by
  -- Those in `before` have made their step; they stay in front while the others make theirs.
  induction tasks generalizing before a with
  | nil => exact ⟨[], .refl, rfl⟩
  | cons t more ih =>
    obtain ⟨t, marked⟩ := t
    have ht : (before ++ (t, marked) :: more)[before.length]? = some (t, marked) := by simp
    have hnext : Next Task.Steps ⟨before ++ (t, marked) :: more, ending⟩ _ :=
      .task before.length ht ⟨scope, a, rfl⟩
    have hset : (before ++ (t, marked) :: more).set before.length ((t.step scope a).1, marked) =
        (before ++ [((t.step scope a).1, marked)]) ++ more := by
      simp
    rw [hset] at hnext
    obtain ⟨after, hcourse, hafter⟩ :=
      ih (before ++ [((t.step scope a).1, marked)]) (t.step scope a).2
    rw [List.append_assoc, List.append_assoc] at hcourse
    rw [List.append_assoc] at hnext
    refine ⟨((t.step scope a).1, marked) :: after, .head hnext hcourse, ?_⟩
    rw [List.map_cons, List.map_cons, Settling.stepAll, hafter]

theorem course_round (w : Watch) (scope : Option Nat) (a : Activity) :
    ∃ v, Course Task.Steps w v ∧ v.settling = (w.settling.round scope a).1 := by
  obtain ⟨after, hcourse, hafter⟩ := course_stepAll scope w.ending [] w.tasks a
  refine ⟨⟨after, w.ending⟩, hcourse, ?_⟩
  rw [settling, hafter]
  rfl

/-- A wait that goes on round by round, until its deadline has passed and after, is one of these
courses. -/
theorem course_run (scope : Option Nat) (deadline : Option Deadline) (fuel rounds : Nat) (w : Watch)
    (a : Activity) : ∃ v, Course Task.Steps w v ∧
      v.settling = (w.settling.run scope deadline fuel rounds a).1 := by
  induction fuel generalizing rounds w a with
  | zero => exact ⟨w, .refl, rfl⟩
  | succ fuel ih =>
    rw [Settling.run]
    split
    · exact ⟨w, .refl, rfl⟩
    · obtain ⟨v, hround, hv⟩ := course_round w scope a
      rw [Settling.advance]
      dsimp only
      rw [← hv]
      split
      · obtain ⟨u, hrun, hu⟩ := ih (rounds + 1) v.expire (w.settling.round scope a).2
        rw [settling_expire] at hu
        exact ⟨u, hround.trans (.head (.deadline v) hrun), hu⟩
      · obtain ⟨u, hrun, hu⟩ := ih (rounds + 1) v (w.settling.round scope a).2
        exact ⟨u, hround.trans hrun, hu⟩

/-- So is a wait that is cancelled once a task hangs. -/
theorem course_runCancelled (scope : Option Nat) (fuel : Nat) {w : Watch} (hw : w.Covers)
    (a : Activity) : ∃ v, Course Task.Steps w v ∧
      v.settling = (w.settling.runCancelled scope fuel a).1 := by
  induction fuel generalizing w a with
  | zero => exact ⟨w, .refl, rfl⟩
  | succ fuel ih =>
    rw [Settling.runCancelled]
    split
    · exact ⟨w, .refl, rfl⟩
    · obtain ⟨v, hround, hv⟩ := course_round w scope a
      have hcovers := (keeps_of_course hround (fun _ _ => Task.Steps.lasts) hw).1
      dsimp only
      rw [← hv]
      split
      -- Something hangs: one more round, the cancellation, and the round in which all stop.
      · obtain ⟨u, hnext, hu⟩ := course_round v scope (w.settling.round scope a).2
        have hcovers' := (keeps_of_course hnext (fun _ _ => Task.Steps.lasts) hcovers).1
        rw [← hu, ← hcovers'.settling_cancel]
        obtain ⟨x, hlast, hx⟩ := course_round u.cancel scope
          (v.settling.round scope (w.settling.round scope a).2).2
        exact ⟨x, hround.trans (hnext.trans (.head (.cancelled u) hlast)), hx⟩
      · obtain ⟨u, hrun, hu⟩ := ih hcovers (w.settling.round scope a).2
        exact ⟨u, hround.trans hrun, hu⟩

end Watch
end DeferredViews.Deferred

namespace DeferredViews.View

open Deferred

/-- A wait ends with values, with the failure of a helper, or as cancelled. -/
theorem result_cases (deadline : Option Deadline) (s : Settled) :
    (∃ values, s.result deadline = .ok values) ∨
      (∃ name message cause,
        s.result deadline = .error (.failure (.helper name message cause))) ∨
      ∃ message, s.result deadline = .error (.interrupt (.cancelled message)) := by
  cases s with
  | values vs => exact .inl ⟨vs, rfl⟩
  | timedOut stalled => exact .inr (.inl ⟨_, _, _, rfl⟩)
  | cancelled message => exact .inr (.inr ⟨message, rfl⟩)
  | tainted name => exact .inr (.inl ⟨_, _, _, rfl⟩)
  | failed failures =>
    cases failures with
    | nil => exact .inl ⟨[], rfl⟩
    | cons f more => exact .inr (.inl ⟨_, _, _, rfl⟩)

/-- Whatever happens to a wait for some calls, in any order: its tasks are those of the calls, and
when it is over, with values, with a failure or as cancelled, every one of them has finished. A
wait may be cancelled at any point, also while it waits for tasks that were told to stop: then every
unfinished task is told to stop and waited for, and when the wait is over it is so as cancelled. If
its tasks stop when they are told to, that is one round later. The waits that go round by round are
among these. When one of them is over, so are its tasks: with a deadline it is within the patience it
is given, and so it is if it is cancelled once a task hangs; only one without a deadline may be left
open, and that one never ends. -/
theorem finished_of_any_course (deadline : Option Deadline) (calls : List Pending) :
    (∀ w, Watch.Course Task.Lasts (.begin calls) w →
      w.settling.tasks.map (·.call) = calls ∧ w.exit? = w.settling.result? ∧
      (∀ s, w.exit? = some s → (∀ t ∈ w.settling.tasks, t.isFinished = true) ∧
        ((∃ values, s.result deadline = .ok values) ∨
          (∃ name message cause,
            s.result deadline = .error (.failure (.helper name message cause))) ∨
          ∃ message, s.result deadline = .error (.interrupt (.cancelled message)))) ∧
      (∀ (i : Nat) (t : Task) (marked : Bool), w.tasks[i]? = some (t, marked) →
        t.isFinished = false →
          w.cancel.tasks[i]? = some (t.cancel, true) ∧ ∃ hung, t.cancel.state = .cancelling hung) ∧
      (∀ v, Watch.Course Task.Lasts w.cancel v → ∀ s, v.exit? = some s →
        s.result deadline = .error (.interrupt (.cancelled ""))) ∧
      ∀ v, Watch.Course Task.Steps w.cancel v → ∀ scope a,
        (v.settling.round scope a).1.result? = some (.cancelled "")) ∧
    (∀ scope fuel a,
      (∃ w, Watch.Course Task.Lasts (.begin calls) w ∧
        w.settling = ((Settling.ofPending calls).run scope deadline fuel 0 a).1) ∧
      ∃ w, Watch.Course Task.Lasts (.begin calls) w ∧
        w.settling = ((Settling.ofPending calls).runCancelled scope fuel a).1) ∧
    ∀ scope a,
      ((deadline = none →
          ((Settling.ofPending calls).run scope none a.patience 0 a).1.result?.isSome = true) →
        ∀ t ∈ ((Settling.ofPending calls).run scope deadline a.patience 0 a).1.tasks,
          t.isFinished = true) ∧
      ∀ t ∈ ((Settling.ofPending calls).runCancelled scope a.patience a).1.tasks,
        t.isFinished = true := by
  have hbegin : (Watch.begin calls).settling = .ofPending calls := by
    simp [Watch.begin, Watch.settling, Settling.ofPending, Function.comp_def]
  have hlasts : ∀ {w v : Watch}, Watch.Course Task.Steps w v → Watch.Course Task.Lasts w v :=
    Watch.course_mono fun _ _ => Task.Steps.lasts
  -- The first part rests on `Covers`, which every course keeps; the second names the courses, and
  -- the last is about how long they take.
  refine ⟨?_, ?_, fun scope a => ⟨fun hends => ?_, ?_⟩⟩
  · intro w hw
    obtain ⟨hcovers, hcalls⟩ := Watch.keeps_of_course hw (fun _ _ h => h) (Watch.covers_begin calls)
    refine ⟨?_, hcovers.exit?_eq, ?_, ?_, ?_, ?_⟩
    · rw [hcalls, hbegin]
      exact Settling.call_ofPending calls
    · intro s hs
      refine ⟨?_, result_cases deadline s⟩
      rw [hcovers.exit?_eq] at hs
      exact List.all_eq_true.mp (Settling.allFinished_of_result? hs)
    · intro i t marked ht hunfinished
      exact ⟨hcovers.getElem?_cancel ht hunfinished, Task.state_cancel hunfinished⟩
    · intro v hv s hs
      have hending := Watch.ending_of_course hv w.ending_cancel
      rw [Watch.exit?_of_cancelled hending hs]
      rfl
    · intro v hv scope a
      have hending : (v.settling.round scope a).1.ending = some .cancelled :=
        Watch.ending_of_course hv w.ending_cancel
      have hstop := Watch.stopping_of_course hv (w.stopping_cancel hcovers)
      rw [Settling.result?, hstop.round scope a, hending]
      rfl
  · intro scope fuel a
    rw [← hbegin]
    obtain ⟨w, hw, hrun⟩ := Watch.course_run scope deadline fuel 0 (.begin calls) a
    obtain ⟨v, hv, hcancelled⟩ :=
      Watch.course_runCancelled scope fuel (Watch.covers_begin calls) a
    exact ⟨⟨w, hlasts hw, hrun⟩, ⟨v, hlasts hv, hcancelled⟩⟩
  · refine List.all_eq_true.mp ?_
    cases deadline with
    | none =>
      have hover := hends rfl
      rwa [Settling.isSome_result?] at hover
    | some d => exact Settling.allFinished_run_ofPending scope d calls a
  · exact List.all_eq_true.mp (Settling.allFinished_runCancelled_ofPending scope calls a)

/-- A task with its state, and that it is waited for. -/
def marked (c : Pending) (state : TaskState) : Task × Bool := ({ call := c, state }, true)

/-- One of two tasks hangs when the deadline passes, and goes on after it was told to stop; the wait
is cancelled then, and once more before both have finished. -/
theorem finished_of_stubborn_task :
    ∃ w v, Watch.Course Task.Lasts (.begin twoCalls) w ∧ w.ending = some (.deadline ["load"]) ∧
      Watch.Course Task.Lasts w.cancel v ∧ v.exit? = some (.cancelled "") ∧
      (∀ t ∈ v.settling.tasks, t.isFinished = true) ∧
      (Settled.cancelled "").result none = .error (.interrupt (.cancelled "")) := by
  have hlasts : ∀ (c : Pending) (state state' : TaskState),
      Task.isFinished { call := c, state } = false → Task.Lasts ⟨c, state⟩ ⟨c, state'⟩ := by
    intro c state state' h
    refine ⟨rfl, fun hfinished => ?_⟩
    rw [h] at hfinished
    cases hfinished
  let w : Watch := ⟨[marked ⟨"t0", "load", 0, [], []⟩ (.pausing 3 ⟨[], [], 0⟩),
    (⟨⟨"t1", "load", 0, [.null], []⟩, .finished (.value (.int 1))⟩, false)],
    some (.deadline ["load"])⟩
  let v : Watch := ⟨[marked ⟨"t0", "load", 0, [], []⟩ (.finished (.value .null)),
    (⟨⟨"t1", "load", 0, [.null], []⟩, .finished (.value (.int 1))⟩, false)], some .cancelled⟩
  have hw : Watch.Course Task.Lasts (.begin twoCalls) w :=
    .tail (.tail (.tail (.single (.task 1 rfl (hlasts _ .ready (.finished (.value (.int 1))) rfl)))
      (.task 0 rfl (hlasts _ .ready .hanging rfl))) (.deadline _))
      (.task 0 rfl (hlasts _ (.cancelling true) (.pausing 3 ⟨[], [], 0⟩) rfl))
  have hv : Watch.Course Task.Lasts w.cancel v :=
    .tail (.single (.cancelled _))
      (.task 0 rfl (hlasts _ (.cancelling false) (.finished (.value .null)) rfl))
  have hany := (finished_of_any_course none twoCalls).1
  obtain ⟨-, -, -, -, hcancelled, -⟩ := hany w hw
  obtain ⟨-, -, hfinished, -, -⟩ := hany v (hw.trans (.head (.cancelled w) hv))
  exact ⟨w, v, hw, rfl, hv, rfl, (hfinished _ rfl).1, hcancelled v hv _ rfl⟩

end DeferredViews.View
