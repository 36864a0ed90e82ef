import DeferredViews.Proofs.Completion
import DeferredViews.Proofs.Lockstep
import DeferredViews.Proofs.Verdict

/-!
# How a render ends that waits for helpers

The tasks of a wait come closer to their answers with every round, so a wait for calls that answer
ends after as many rounds as its slowest call needs; a wait for a call that never answers does not
end. The render then ends with the page and the values, or with what went wrong first.
-/
namespace DeferredViews.Deferred

/-- What a call comes to, as far as its helper's first answer tells. -/
def Pending.given (helpers : List Helper) (c : Pending) : Option Outcome :=
  match helpers[c.helper]? with
  | some h => ((h.body ⟨c.args, c.kwargs, 0⟩).end?).getD none
  | none => none

theorem Pending.Always.given_eq {a : Activity} {c : Pending} {o : Option Outcome}
    (h : c.Always a o) : c.given a.helpers = o := by
  obtain ⟨helper, hhelper, hreply⟩ := h
  rw [Pending.given, hhelper]
  dsimp only
  rw [hreply 0]
  rfl

/-- A call whose outcome depends on its arguments alone. -/
def Pending.Steady (helpers : List Helper) (c : Pending) : Prop :=
  ∃ h o, helpers[c.helper]? = some h ∧
    ∀ earlier, (h.body ⟨c.args, c.kwargs, earlier⟩).end? = some o

theorem Pending.Steady.always {a : Activity} {c : Pending} (h : c.Steady a.helpers) :
    c.Always a (c.given a.helpers) := by
  obtain ⟨helper, o, hhelper, hreply⟩ := h
  have halways : c.Always a o := ⟨helper, hhelper, hreply⟩
  rw [halways.given_eq]
  exact halways

namespace Settling

variable {scope : Option Nat} {a : Activity} {w : Settling}

/-- Every task is on its way to what its call comes to. -/
def Follows (a : Activity) (w : Settling) : Prop :=
  ∀ t ∈ w.tasks, t.Follows a (t.call.given a.helpers)

theorem follows_ofPending {calls : List Pending} (h : ∀ c ∈ calls, c.Steady a.helpers) :
    (ofPending calls).Follows a := by
  intro t ht
  obtain ⟨c, hc, rfl⟩ := List.mem_map.mp ht
  exact ⟨(h c hc).always, trivial⟩

/-- A task makes a step: what it does to the tasks and to the activity. -/
theorem follows_step {t : Task} (h : t.Follows a (t.call.given a.helpers)) (scope : Option Nat) :
    (t.step scope a).1.Follows (t.step scope a).2
        ((t.step scope a).1.call.given (t.step scope a).2.helpers) ∧
      (t.step scope a).2.registries = a.registries ∧ (t.step scope a).2.ids = a.ids ∧
      ∀ helper, a.helpers[t.call.helper]? = some helper →
        (t.step scope a).1.state.left helper ≤ t.state.left helper - 1 := by
  have hstep := Task.follows_step h scope
  obtain ⟨helper, hhelper, -⟩ := h.always
  have hadvance := h.advance hhelper scope
  have hstate : t.step scope a =
      ({ t with state := (t.advance scope helper a).1 }, (t.advance scope helper a).2) := by
    rw [Task.step, hhelper]
  refine ⟨?_, ?_, ?_, ?_⟩
  · rw [Task.call_step, Task.helpers_step]
    exact hstep
  · rw [hstate]
    exact hadvance.2.2.1
  · rw [hstate]
    exact hadvance.2.2.2
  · intro helper' hhelper'
    rw [hhelper] at hhelper'
    cases hhelper'
    rw [hstate]
    exact hadvance.2.1

/-- The tasks need at most so many steps to answer. -/
def Within (helpers : List Helper) (n : Nat) (w : Settling) : Prop :=
  ∀ t ∈ w.tasks, ∀ h, helpers[t.call.helper]? = some h → t.state.left h ≤ n

/-- What one round of steps does. -/
theorem stepAll_spec (tasks : List Task) (h : ∀ t ∈ tasks, t.Follows a (t.call.given a.helpers)) :
    (∀ t ∈ (stepAll scope tasks a).1, t.Follows (stepAll scope tasks a).2
        (t.call.given (stepAll scope tasks a).2.helpers)) ∧
      (stepAll scope tasks a).1.map (·.call) = tasks.map (·.call) ∧
      (stepAll scope tasks a).2.helpers = a.helpers ∧
      (stepAll scope tasks a).2.registries = a.registries ∧
      (stepAll scope tasks a).2.ids = a.ids ∧
      ∀ n, (∀ t ∈ tasks, ∀ helper, a.helpers[t.call.helper]? = some helper →
          t.state.left helper ≤ n + 1) →
        ∀ t ∈ (stepAll scope tasks a).1, ∀ helper, a.helpers[t.call.helper]? = some helper →
          t.state.left helper ≤ n := by
  induction tasks generalizing a with
  | nil => exact ⟨nofun, rfl, rfl, rfl, rfl, fun _ _ => nofun⟩
  | cons t more ih =>
    have hhead := follows_step (h t List.mem_cons_self) scope
    have hhelpers := Task.helpers_step scope t a
    have hprefix : Elsewhere a (t.step scope a).2 := .of_eq hhelpers
    have hmore : ∀ u ∈ more,
        u.Follows (t.step scope a).2 (u.call.given (t.step scope a).2.helpers) := by
      intro u hu
      rw [hhelpers]
      exact (h u (List.mem_cons_of_mem _ hu)).elsewhere hprefix
    obtain ⟨hfollows, hcalls, hhelpers', hregistries, hids, hleft⟩ := ih hmore
    rw [stepAll]
    dsimp only
    refine ⟨?_, ?_, ?_, ?_, ?_, ?_⟩
    · intro u hu
      rcases List.mem_cons.mp hu with rfl | hu
      · rw [hhelpers']
        exact hhead.1.elsewhere (.of_eq hhelpers')
      · exact hfollows u hu
    · rw [List.map_cons, List.map_cons, Task.call_step, hcalls]
    · rw [hhelpers', hhelpers]
    · rw [hregistries, hhead.2.1]
    · rw [hids, hhead.2.2.1]
    · intro n hn u hu helper hhelper
      rcases List.mem_cons.mp hu with rfl | hu
      · rw [Task.call_step] at hhelper
        have hbefore := hn t List.mem_cons_self helper hhelper
        have hafter := hhead.2.2.2 helper hhelper
        omega
      · rw [← hhelpers] at hhelper
        refine hleft n ?_ u hu helper hhelper
        intro v hv helper' hhelper'
        rw [hhelpers] at hhelper'
        exact hn v (List.mem_cons_of_mem _ hv) helper' hhelper'

/-- What one round of a wait does. -/
theorem round_spec (scope : Option Nat) (h : w.Follows a) :
    (w.round scope a).1.Follows (w.round scope a).2 ∧
      (w.round scope a).1.tasks.map (·.call) = w.tasks.map (·.call) ∧
      (w.round scope a).2.helpers = a.helpers ∧
      (w.round scope a).2.registries = a.registries ∧
      (w.round scope a).2.ids = a.ids ∧
      ∀ n, w.Within a.helpers (n + 1) → (w.round scope a).1.Within a.helpers n :=
  stepAll_spec w.tasks h

/-- A task that answers and needs no more steps is finished. -/
theorem allFinished_of_within (h : w.Follows a) (hanswer : ∀ t ∈ w.tasks,
    t.call.given a.helpers ≠ none) (hwithin : w.Within a.helpers 0) : w.allFinished = true := by
  rw [allFinished, List.all_eq_true]
  intro t ht
  obtain ⟨helper, hhelper, -⟩ := (h t ht).always
  have htoward := (h t ht).toward
  have hleft := hwithin t ht helper hhelper
  rw [Task.isFinished, Task.outcome?]
  cases hstate : t.state with
  | ready =>
    rw [hstate] at hleft
    exact absurd hleft (Nat.not_le_of_lt helper.rounds_pos)
  | pausing left call =>
    rw [hstate] at hleft
    exact absurd hleft (Nat.not_succ_le_zero _)
  | hanging =>
    rw [hstate] at htoward
    exact absurd htoward (hanswer t ht)
  | cancelling hung =>
    rw [hstate] at htoward
    exact htoward.elim
  | finished o => rfl

/-- Tasks that answer only hang when they are finished. -/
theorem allFinished_of_onlyHanging (h : w.Follows a) (hanswer : ∀ t ∈ w.tasks,
    t.call.given a.helpers ≠ none) (hhang : w.onlyHanging = true) : w.allFinished = true := by
  rw [allFinished, List.all_eq_true]
  intro t ht
  have htoward := (h t ht).toward
  have hhang := List.all_eq_true.mp hhang t ht
  rw [Task.isFinished, Task.outcome?]
  cases hstate : t.state with
  | hanging =>
    rw [hstate] at htoward
    exact absurd htoward (hanswer t ht)
  | finished o => rfl
  | _ =>
    rw [hstate] at hhang
    cases hhang

/-- While a call never answers, its wait is not finished. -/
theorem not_allFinished (h : w.Follows a) {t : Task} (ht : t ∈ w.tasks)
    (hnever : t.call.given a.helpers = none) : w.allFinished = false := by
  rw [allFinished, List.all_eq_false]
  refine ⟨t, ht, ?_⟩
  rw [Task.isFinished]
  intro hfinished
  obtain ⟨o, ho⟩ := Option.isSome_iff_exists.mp hfinished
  have heq := (h t ht).outcome?_eq ho
  rw [hnever] at heq
  cases heq

theorem outcomes_of_allFinished (h : w.Follows a) (hall : w.allFinished = true) :
    w.outcomes = (w.tasks.map (·.call)).map fun c => (c, c.given a.helpers) := by
  rw [outcomes, List.map_map]
  apply List.map_congr_left
  intro t ht
  have hfinished : t.isFinished = true := List.all_eq_true.mp hall t ht
  obtain ⟨o, ho⟩ := Option.isSome_iff_exists.mp hfinished
  rw [Function.comp_apply, ho, (h t ht).outcome?_eq ho]

theorem answer_of_calls {v : Settling} {helpers : List Helper}
    (hcalls : v.tasks.map (·.call) = w.tasks.map (·.call))
    (h : ∀ t ∈ w.tasks, t.call.given helpers ≠ none) :
    ∀ t ∈ v.tasks, t.call.given helpers ≠ none := by
  intro t ht
  have hmem : t.call ∈ w.tasks.map (·.call) := hcalls ▸ List.mem_map.mpr ⟨t, ht, rfl⟩
  obtain ⟨u, hu, heq⟩ := List.mem_map.mp hmem
  rw [← heq]
  exact h u hu

/-- As long as every call answers in time, a deadline changes nothing. -/
theorem advance_eq_round (scope : Option Nat) {deadline : Option Deadline} {rounds n : Nat} (h : w.Follows a)
    (hanswer : ∀ t ∈ w.tasks, t.call.given a.helpers ≠ none) (hwithin : w.Within a.helpers (n + 1))
    (htime : ∀ d, deadline = some d → d.immediate = true → rounds + (n + 1) ≤ 2) :
    w.advance scope deadline rounds a = w.round scope a := by
  obtain ⟨hfollows, hcalls, hhelpers, -, -, hcloser⟩ := round_spec scope h
  have hanswer' := answer_of_calls hcalls hanswer
  rw [← hhelpers] at hanswer'
  rw [advance]
  dsimp only
  split
  · next hpassed =>
    suffices hall : (w.round scope a).1.allFinished = true by
      rw [expire_of_allFinished hall]
    cases deadline with
    | none => cases hpassed
    | some d =>
      rw [Option.any_some, Deadline.hasPassed] at hpassed
      split at hpassed
      · next himmediate =>
        have hrounds : 2 ≤ rounds + 1 := of_decide_eq_true hpassed
        have hlimit := htime d rfl himmediate
        have hn : n = 0 := by omega
        subst hn
        have hzero := hcloser 0 hwithin
        rw [← hhelpers] at hzero
        exact allFinished_of_within hfollows hanswer' hzero
      · exact allFinished_of_onlyHanging hfollows hanswer' hpassed
  · rfl

end Settling
end DeferredViews.Deferred

namespace DeferredViews.View

open Deferred

/-- The stage and the site that a part of a render leads to. -/
def Stage.after (x : Except Stop Stage × Site) : Stage × Site :=
  match x with
  | (.ok next, s) => (next, s)
  | (.error stop, s) => (.ended (.error stop), s)

theorem Stage.step_eq (r : Request) (stage : Stage) (s : Site) :
    stage.step r s = Stage.after (stage.work r s) := rfl

/-- Notes change the log alone. -/
theorem note_apply (record : Log.Record) (s : Site) :
    (note record) s = (.ok (), s.note record) := rfl

/-- What completing a page leaves: the site but for the log. -/
theorem complete_site (r : Request) (registry : Nat) (rendered : String)
    (values : List (String × String)) (s : Site) :
    ∃ log, (complete r registry rendered values s).2 = { s with log } := by
  rw [complete]
  dsimp only
  split
  · exact ⟨_, rfl⟩
  · exact ⟨_, rfl⟩

theorem complete_congr (r : Request) (rendered : String) (values : List (String × String))
    {q p : Nat} {s t : Site} (h : s.activity.registry q = t.activity.registry p) :
    (complete r q rendered values s).1 = (complete r p rendered values t).1 := by
  by_cases hvalues : values = []
  · rw [hvalues, complete_nil, complete_nil]
  · rw [complete_eq r q rendered hvalues, complete_eq r p rendered hvalues, alteration, alteration,
      h]

/-- How a render ends with the result of its wait. -/
def endWith (r : Request) (registry : Nat) (rendered : String) (s : Site)
    (result : Except Stop (List (String × String))) : Except Stop String :=
  match result with
  | .ok values => (complete r registry rendered values s).1
  | .error stop => .error stop

theorem endWith_congr (r : Request) (rendered : String) {q p : Nat} {s t : Site}
    (h : s.activity.registry q = t.activity.registry p)
    (result : Except Stop (List (String × String))) :
    endWith r q rendered s result = endWith r p rendered t result := by
  cases result with
  | ok values => exact complete_congr r rendered values h
  | error stop => rfl

theorem notes_apply (records : List Log.Record) (s : Site) :
    (forIn records PUnit.unit fun record _ => do
      note record
      pure (ForInStep.yield PUnit.unit) : Work PUnit) s =
      (.ok PUnit.unit, { s with log := s.log ++ records }) := by
  induction records generalizing s with
  | nil =>
    rw [List.forIn_nil, List.append_nil]
    rfl
  | cons record more ih =>
    rw [List.forIn_cons, bind_apply, bind_apply]
    show (forIn more PUnit.unit _ : Work PUnit) (s.note record) = _
    rw [ih (s.note record)]
    rw [Site.note, List.append_assoc, List.singleton_append]

theorem conclude_apply (r : Request) (registry : Nat) (rendered : String)
    (deadline : Option Deadline) (settled : Settled) (s : Site) :
    (conclude r registry rendered deadline settled s).1 =
        endWith r registry rendered s (settled.result deadline) ∧
      ∃ log, (conclude r registry rendered deadline settled s).2 = { s with log } := by
  rw [conclude, bind_apply, notes_apply]
  dsimp only
  cases settled.result deadline with
  | error stop => exact ⟨rfl, _, rfl⟩
  | ok values =>
    obtain ⟨log, hlog⟩ := complete_site r registry rendered values
      { s with log := s.log ++ settled.warnings deadline }
    refine ⟨?_, log, ?_⟩
    · refine complete_congr r rendered values ?_
      rfl
    · rw [hlog]

/-- Without a well-formed timeout there is no round. -/
theorem settle_error (r : Request) (registry : Nat) (rendered : String) (rounds : Nat)
    (w : Settling) {s : Site} {f : Fault}
    (hdeadline : deadlineOf (s.engine r.engine).timeout = .error f) :
    settle r registry rendered rounds w s = (.error (.fault f), s) := by
  rw [settle, bind_apply, get_apply]
  dsimp only
  rw [hdeadline]
  rfl

/-- One more round of the helpers, when the timeout is well formed. -/
theorem settle_apply (r : Request) (registry : Nat) (rendered : String) (rounds : Nat)
    (w : Settling) {s : Site} {deadline : Option Deadline}
    (hdeadline : deadlineOf (s.engine r.engine).timeout = .ok deadline) :
    settle r registry rendered rounds w s =
      match (w.advance (some registry) deadline rounds s.activity).1.result? with
      | some settled =>
        match conclude r registry rendered deadline settled
          { s with activity := (w.advance (some registry) deadline rounds s.activity).2 } with
        | (.ok html, s) => (.ok (.ended (.ok html)), s)
        | (.error stop, s) => (.error stop, s)
      | none =>
        (.ok (.settling registry rendered (rounds + 1)
            (w.advance (some registry) deadline rounds s.activity).1),
          { s with activity := (w.advance (some registry) deadline rounds s.activity).2 }) := by
  rw [settle, bind_apply, get_apply]
  dsimp only
  rw [hdeadline, orFault, bind_apply, pure_apply]
  dsimp only
  rw [bind_apply, set_apply]
  dsimp only
  cases (w.advance (some registry) deadline rounds s.activity).1.result? with
  | none => rfl
  | some settled =>
    dsimp only
    rw [bind_apply]
    generalize conclude r registry rendered deadline settled _ = x
    obtain ⟨_ | html, t⟩ := x <;> rfl

theorem runStages_ended (r : Request) (n : Nat) (x : Except Stop String) (s : Site) :
    runStages r n (.ended x) s = (.ended x, s) := by
  cases n <;> rfl

/-- One round after which some calls are still unfinished. -/
theorem step_settling_open (r : Request) {registry : Nat} (rendered : String) {rounds : Nat}
    {w : Settling} {s : Site} {deadline : Option Deadline}
    (hdeadline : deadlineOf (s.engine r.engine).timeout = .ok deadline)
    (hadvance : w.advance (some registry) deadline rounds s.activity =
      w.round (some registry) s.activity)
    (hopen : (w.round (some registry) s.activity).1.allFinished = false) :
    Stage.step r (.settling registry rendered rounds w) s =
      (.settling registry rendered (rounds + 1) (w.round (some registry) s.activity).1,
        { s with activity := (w.round (some registry) s.activity).2 }) := by
  have hresult : (w.round (some registry) s.activity).1.result? = none := by
    rw [Settling.result?, hopen]
    rfl
  rw [Stage.step_eq, Stage.work, settle_apply r registry rendered rounds w hdeadline, hadvance,
    hresult]
  rfl

/-- One round after which all calls are finished ends the render with the verdict over them. -/
theorem step_settling_finished (r : Request) {registry : Nat} (rendered : String) {rounds : Nat}
    {w : Settling} {s : Site} {deadline : Option Deadline}
    (hdeadline : deadlineOf (s.engine r.engine).timeout = .ok deadline)
    (hadvance : w.advance (some registry) deadline rounds s.activity =
      w.round (some registry) s.activity)
    (hending : w.ending = none)
    (hfinished : (w.round (some registry) s.activity).1.allFinished = true) :
    (Stage.step r (.settling registry rendered rounds w) s).1 =
        .ended (endWith r registry rendered
          { s with activity := (w.round (some registry) s.activity).2 }
          (verdict deadline (w.round (some registry) s.activity).1.outcomes)) ∧
      ∃ log, (Stage.step r (.settling registry rendered rounds w) s).2 =
        { s with activity := (w.round (some registry) s.activity).2, log } := by
  have hresult : (w.round (some registry) s.activity).1.result? =
      some (.ofTasks (w.round (some registry) s.activity).1.tasks) := by
    have hsame : (w.round (some registry) s.activity).1.ending = none := hending
    rw [Settling.result?, hfinished, hsame]
    rfl
  have hverdict := result_ofTasks deadline hfinished
  rw [Stage.step_eq, Stage.work, settle_apply r registry rendered rounds w hdeadline, hadvance,
    hresult]
  dsimp only
  obtain ⟨hend, log, hsite⟩ := conclude_apply r registry rendered deadline
    (.ofTasks (w.round (some registry) s.activity).1.tasks)
    { s with activity := (w.round (some registry) s.activity).2 }
  rw [hverdict] at hend
  revert hend hsite
  generalize conclude r registry rendered deadline _ _ = x
  generalize endWith r registry rendered _ _ = y
  obtain ⟨result, t⟩ := x
  intro hend hsite
  dsimp only at hend hsite
  subst hend
  cases result with
  | ok html => exact ⟨rfl, log, hsite⟩
  | error stop => exact ⟨rfl, log, hsite⟩

theorem runStages_succ (r : Request) (n : Nat) {stage : Stage} (s : Site)
    (h : stage.result? = none) :
    runStages r (n + 1) stage s = runStages r n (stage.step r s).1 (stage.step r s).2 := by
  rw [runStages, h]

/-- A wait whose calls are all finished after one more round. -/
theorem runStages_settling_finished (r : Request) {registry : Nat} {rendered : String}
    {rounds : Nat} {w : Settling} {s : Site} {deadline : Option Deadline}
    (hdeadline : deadlineOf (s.engine r.engine).timeout = .ok deadline)
    (hadvance : w.advance (some registry) deadline rounds s.activity =
      w.round (some registry) s.activity)
    (hfollows : w.Follows s.activity) (hending : w.ending = none)
    (hfinished : (w.round (some registry) s.activity).1.allFinished = true) (m : Nat) :
    (runStages r (m + 1) (.settling registry rendered rounds w) s).1 =
      .ended (endWith r registry rendered s
        (verdict deadline ((w.tasks.map (·.call)).map fun c =>
          (c, c.given s.activity.helpers)))) := by
  obtain ⟨hfollows', hcalls, hhelpers, hregistries, -, -⟩ :=
    Settling.round_spec (some registry) hfollows
  have houtcomes := Settling.outcomes_of_allFinished hfollows' hfinished
  rw [hcalls, hhelpers] at houtcomes
  have hstep := (step_settling_finished r rendered hdeadline hadvance hending
    hfinished).1
  rw [runStages_succ r m s rfl, hstep, runStages_ended, houtcomes]
  exact congrArg Stage.ended (endWith_congr r rendered (Activity.registry_congr hregistries _) _)

/-- How a wait ends whose calls all answer in time: with the verdict over what the calls come to. -/
theorem runStages_settling (r : Request) (registry : Nat) (rendered : String)
    {deadline : Option Deadline} (n : Nat) {rounds : Nat} {w : Settling} {s : Site}
    (hdeadline : deadlineOf (s.engine r.engine).timeout = .ok deadline)
    (hfollows : w.Follows s.activity) (hending : w.ending = none)
    (hanswer : ∀ t ∈ w.tasks, t.call.given s.activity.helpers ≠ none)
    (hwithin : w.Within s.activity.helpers (n + 1))
    (htime : ∀ d, deadline = some d → d.immediate = true → rounds + (n + 1) ≤ 2) {m : Nat}
    (hm : n + 1 ≤ m) :
    (runStages r m (.settling registry rendered rounds w) s).1 =
      .ended (endWith r registry rendered s
        (verdict deadline ((w.tasks.map (·.call)).map fun c =>
          (c, c.given s.activity.helpers)))) := by
  obtain ⟨m, rfl⟩ : ∃ k, m = k + 1 := ⟨m - 1, by omega⟩
  induction n generalizing rounds w s m with
  | zero =>
    have hadvance := Settling.advance_eq_round (some registry) hfollows hanswer hwithin htime
    obtain ⟨hfollows', hcalls, hhelpers, -, -, hcloser⟩ :=
      Settling.round_spec (some registry) hfollows
    have hanswer' := Settling.answer_of_calls hcalls hanswer
    have hzero := hcloser 0 hwithin
    rw [← hhelpers] at hanswer' hzero
    exact runStages_settling_finished r hdeadline hadvance hfollows hending
      (Settling.allFinished_of_within hfollows' hanswer' hzero) m
  | succ n ih =>
    have hadvance := Settling.advance_eq_round (some registry) hfollows hanswer hwithin htime
    obtain ⟨hfollows', hcalls, hhelpers, hregistries, -, hcloser⟩ :=
      Settling.round_spec (some registry) hfollows
    have hanswer' := Settling.answer_of_calls hcalls hanswer
    cases hfinished : (w.round (some registry) s.activity).1.allFinished with
    | true => exact runStages_settling_finished r hdeadline hadvance hfollows hending hfinished m
    | false =>
      have hstep := step_settling_open r rendered hdeadline hadvance hfinished
      obtain ⟨m, rfl⟩ : ∃ k, m = k + 1 := ⟨m - 1, by omega⟩
      have hcloser' := hcloser (n + 1) hwithin
      rw [← hhelpers] at hanswer' hcloser'
      have htime' : ∀ d, deadline = some d → d.immediate = true → rounds + 1 + (n + 1) ≤ 2 := by
        intro d hd himmediate
        have hlimit := htime d hd himmediate
        omega
      have hend := ih (s := { s with activity := (w.round (some registry) s.activity).2 })
        hdeadline hfollows' hending hanswer' hcloser' htime' m (by omega)
      rw [runStages_succ r (m + 1) s rfl, hstep, hend, hcalls, hhelpers]
      exact congrArg Stage.ended (endWith_congr r rendered (Activity.registry_congr hregistries _) _)

end DeferredViews.View
