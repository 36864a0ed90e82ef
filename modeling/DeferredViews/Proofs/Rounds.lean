import DeferredViews.Proofs.Schedules

/-!
# How many rounds a wait needs

Each round brings every task of a wait closer to its answer, unless it hangs. After as many rounds
as its slowest helper takes, each has finished or hangs. So a deadline that is given has passed
then, and so has the moment at which a wait is cancelled because a task hangs; in the patience that
is given to a wait, only one without a deadline can be left open.
-/
namespace DeferredViews.Deferred

/-- How many rounds a state may still last, for a helper that takes so many. -/
def TaskState.due (rounds : Nat) : TaskState → Nat
  | .ready => rounds
  | .pausing left _ => left + 1
  | .cancelling _ => 1
  | .hanging | .finished _ => 0

/-- How many rounds a task may still need until it has finished or hangs. -/
def Task.due (helpers : List Helper) (t : Task) : Nat :=
  match helpers[t.call.helper]? with
  | some h => t.state.due h.rounds
  | none => if t.isFinished then 0 else 1

namespace Task

variable {scope : Option Nat} {a : Activity} {t : Task}

theorem due_conclude (scope : Option Nat) (h : Helper) (call : Call) (a : Activity) (rounds : Nat) :
    (conclude scope h call a).1.due rounds = 0 := by
  rw [conclude]
  split <;> rfl

theorem due_advance (scope : Option Nat) (h : Helper) (t : Task) (a : Activity) :
    (t.advance scope h a).1.due h.rounds ≤ t.state.due h.rounds - 1 := by
  rw [advance]
  cases t.state with
  | ready =>
    dsimp only
    split
    · next hpauses =>
      have hpositive : h.pauses ≠ 0 := hpauses.2
      show h.pauses - 1 + 1 ≤ h.rounds - 1
      rw [Helper.rounds, if_pos hpauses.1]
      omega
    · rw [due_conclude]
      exact Nat.zero_le _
  | pausing left call =>
    cases left with
    | zero =>
      dsimp only
      rw [due_conclude]
      exact Nat.zero_le _
    | succ left => exact Nat.le_refl _
  | hanging => exact Nat.le_refl _
  | cancelling hung => exact Nat.le_refl _
  | finished o => exact Nat.le_refl _

/-- A step brings a task one round closer. -/
theorem due_step (scope : Option Nat) (t : Task) (a : Activity) :
    (t.step scope a).1.due a.helpers ≤ t.due a.helpers - 1 := by
  rw [due, call_step, due]
  cases hhelper : a.helpers[t.call.helper]? with
  | none =>
    have hstep : (t.step scope a).1.isFinished = true := by
      rw [step, hhelper]
      rfl
    dsimp only
    rw [if_pos hstep]
    exact Nat.zero_le _
  | some h =>
    have hstate : (t.step scope a).1.state = (t.advance scope h a).1 := by
      rw [step, hhelper]
    dsimp only
    rw [hstate]
    exact due_advance scope h t a

/-- A task that needs no more rounds has finished or hangs. -/
theorem state_of_due (h : t.due a.helpers = 0) : t.state = .hanging ∨ ∃ o, t.state = .finished o := by
  rw [due] at h
  cases hhelper : a.helpers[t.call.helper]? with
  | none =>
    rw [hhelper] at h
    dsimp only at h
    split at h
    · next hfinished =>
      obtain ⟨o, ho⟩ := Option.isSome_iff_exists.mp hfinished
      exact .inr ⟨o, state_of_outcome? ho⟩
    · cases h
  | some helper =>
    rw [hhelper] at h
    dsimp only at h
    cases hstate : t.state with
    | ready =>
      rw [hstate] at h
      exact absurd h (Nat.ne_of_gt helper.rounds_pos)
    | pausing left call =>
      rw [hstate] at h
      cases h
    | cancelling hung =>
      rw [hstate] at h
      cases h
    | hanging => exact .inl rfl
    | finished o => exact .inr ⟨o, rfl⟩

theorem step_of_due (h : t.due a.helpers = 0) (hsound : t.Sound a) : t.step scope a = (t, a) := by
  have hstate := state_of_due h
  rw [step]
  cases hhelper : a.helpers[t.call.helper]? with
  | none =>
    rcases hstate with hhanging | ⟨o, hfinished⟩
    · rw [due, hhelper] at h
      rw [isFinished, outcome?, hhanging] at h
      cases h
    · have ho : o = .value .null := hsound hhelper o (by rw [outcome?, hfinished])
      subst ho
      obtain ⟨call, state⟩ := t
      dsimp only at hfinished
      subst hfinished
      rfl
  | some helper =>
    obtain ⟨call, state⟩ := t
    rcases hstate with hhanging | ⟨o, hfinished⟩
    · dsimp only at hhanging
      subst hhanging
      rfl
    · dsimp only at hfinished
      subst hfinished
      rfl

end Task

namespace Settling

variable {scope : Option Nat} {a : Activity} {w : Settling}

/-- Every task needs so many rounds at most. -/
def Due (helpers : List Helper) (n : Nat) (w : Settling) : Prop :=
  ∀ t ∈ w.tasks, t.due helpers ≤ n

theorem due_ofPending (helpers : List Helper) (calls : List Pending) :
    (ofPending calls).Due helpers (slowest helpers + 1) := by
  intro t ht
  obtain ⟨c, -, rfl⟩ := List.mem_map.mp ht
  rw [Task.due]
  dsimp only
  split
  · next h hhelper => exact rounds_le_slowest (List.mem_of_getElem? hhelper)
  · exact Nat.le_add_left _ _

theorem helpers_stepAll (scope : Option Nat) (tasks : List Task) (a : Activity) :
    (stepAll scope tasks a).2.helpers = a.helpers := by
  induction tasks generalizing a with
  | nil => rfl
  | cons t more ih =>
    rw [stepAll]
    exact (ih _).trans (Task.helpers_step scope t a)

theorem helpers_round (scope : Option Nat) (w : Settling) (a : Activity) :
    (w.round scope a).2.helpers = a.helpers :=
  helpers_stepAll scope w.tasks a

theorem due_stepAll (scope : Option Nat) {tasks : List Task} {n : Nat} {a : Activity}
    (h : ∀ t ∈ tasks, t.due a.helpers ≤ n) :
    ∀ t ∈ (stepAll scope tasks a).1, t.due a.helpers ≤ n - 1 := by
  induction tasks generalizing a with
  | nil => exact nofun
  | cons t more ih =>
    have hhead := Task.due_step scope t a
    have hhelpers := Task.helpers_step scope t a
    have hn := h t List.mem_cons_self
    intro u hu
    rw [stepAll] at hu
    rcases List.mem_cons.mp hu with rfl | hu
    · omega
    · rw [← hhelpers]
      refine ih ?_ u hu
      rw [hhelpers]
      exact fun v hv => h v (List.mem_cons_of_mem _ hv)

theorem Due.round {n : Nat} (h : w.Due a.helpers n) (scope : Option Nat) :
    (w.round scope a).1.Due (w.round scope a).2.helpers (n - 1) := by
  rw [helpers_round]
  exact due_stepAll scope h

theorem Sound.round (h : w.Sound a) (scope : Option Nat) :
    (w.round scope a).1.Sound (w.round scope a).2 :=
  (schedule_extends (schedule_round scope w a) h).2

theorem round_of_due (h : w.Due a.helpers 0) (hsound : w.Sound a) (scope : Option Nat) :
    w.round scope a = (w, a) := by
  obtain ⟨tasks, ending⟩ := w
  suffices hall : stepAll scope tasks a = (tasks, a) by
    rw [Settling.round, hall]
  induction tasks with
  | nil => rfl
  | cons t more ih =>
    have hhead : t.step scope a = (t, a) :=
      Task.step_of_due (Nat.le_zero.mp (h t List.mem_cons_self)) (hsound t List.mem_cons_self)
    have hmore := ih (fun u hu => h u (List.mem_cons_of_mem _ hu))
      (fun u hu => hsound u (List.mem_cons_of_mem _ hu))
    rw [stepAll, hhead]
    dsimp only
    rw [hmore]

theorem onlyHanging_of_due (h : w.Due a.helpers 0) : w.onlyHanging = true := by
  rw [onlyHanging, List.all_eq_true]
  intro t ht
  rcases Task.state_of_due (Nat.le_zero.mp (h t ht)) with hstate | ⟨o, hstate⟩ <;> rw [hstate]

/-- Where only hanging tasks are left and none hangs, all have finished. -/
theorem allFinished_of_due (h : w.Due a.helpers 0) (hhanging : w.anyHanging = false) :
    w.allFinished = true := by
  rw [allFinished, List.all_eq_true]
  intro t ht
  rcases Task.state_of_due (Nat.le_zero.mp (h t ht)) with hstate | ⟨o, hstate⟩
  · have hnot := List.any_eq_false.mp hhanging t ht
    rw [hstate] at hnot
    exact absurd rfl hnot
  · rw [Task.isFinished, Task.outcome?, hstate]
    rfl

theorem anyHanging_ofPending (calls : List Pending) : (ofPending calls).anyHanging = false := by
  simp [anyHanging, ofPending]

/-- A round in which only hanging tasks are left is the last one before a deadline, unless it is
the first. -/
theorem hasPassed_of_due (h : w.Due a.helpers 0) (d : Deadline) {rounds : Nat}
    (hrounds : rounds ≠ 0) : d.hasPassed (rounds + 1) w = true := by
  have hsecond : 2 ≤ rounds + 1 := by omega
  simp [Deadline.hasPassed, onlyHanging_of_due h, hsecond]

theorem run_of_allFinished (h : w.allFinished = true) (scope : Option Nat) (deadline : Option Deadline)
    (fuel rounds : Nat) (a : Activity) : w.run scope deadline fuel rounds a = (w, a) := by
  cases fuel with
  | zero => rfl
  | succ fuel => simp [run, result?, h]

/-- A wait whose tasks are finished or told to stop is over after a round. -/
theorem allFinished_run_of_stopping (h : w.Stopping) (scope : Option Nat)
    (deadline : Option Deadline) (fuel rounds : Nat) (a : Activity) :
    (w.run scope deadline (fuel + 1) rounds a).1.allFinished = true := by
  rw [run]
  cases hresult : w.result? with
  | some s => exact allFinished_of_result? hresult
  | none =>
    have hall := h.round scope a
    have hadvance : w.advance scope deadline rounds a = w.round scope a := by
      simp [advance, expire_of_allFinished hall]
    dsimp only
    rw [hadvance, run_of_allFinished hall]
    exact hall

/-- A wait that goes on by itself is over a round after its deadline has passed, so only the case in
which it has not needs to be looked at. -/
theorem allFinished_run_succ {deadline : Option Deadline} {fuel rounds : Nat}
    (hopen : w.ending = none)
    (hnext : (deadline.any fun d => d.hasPassed (rounds + 1) (w.round scope a).1) = false →
      Settling.allFinished ((w.round scope a).1.run scope deadline (fuel + 1) (rounds + 1)
        (w.round scope a).2).1 = true) :
    (w.run scope deadline (fuel + 2) rounds a).1.allFinished = true := by
  rw [run]
  cases hresult : w.result? with
  | some s => exact allFinished_of_result? hresult
  | none =>
    rw [advance]
    dsimp only
    split
    · have hstop : (w.round scope a).1.expire.Stopping := stopping_expire hopen
      exact allFinished_run_of_stopping hstop scope deadline fuel (rounds + 1) _
    · next hpassed => exact hnext (Bool.eq_false_iff.mpr hpassed)

/-- A wait with a deadline is over soon after its tasks have finished or hang. -/
theorem allFinished_run (d : Deadline) (n : Nat) {fuel rounds : Nat} (hopen : w.ending = none)
    (hdue : w.Due a.helpers (n + 1)) (hrounds : n + rounds ≠ 0) (hfuel : n ≤ fuel) :
    (w.run scope (some d) (fuel + 2) rounds a).1.allFinished = true := by
  induction n generalizing w a fuel rounds with
  | zero =>
    refine allFinished_run_succ hopen fun hpassed => ?_
    have hnow := hasPassed_of_due (hdue.round scope) d (Nat.zero_add rounds ▸ hrounds)
    rw [Option.any_some, hnow] at hpassed
    cases hpassed
  | succ n ih =>
    obtain ⟨fuel, rfl⟩ : ∃ k, fuel = k + 1 := ⟨fuel - 1, by omega⟩
    refine allFinished_run_succ hopen fun _ => ?_
    exact ih hopen (hdue.round scope) (by omega) (Nat.le_of_succ_le_succ hfuel)

/-- A wait that is cancelled once a task hangs is over in the round after. -/
theorem allFinished_runCancelled {n fuel : Nat} (hdue : w.Due a.helpers n)
    (hhanging : w.anyHanging = false) (hfuel : n ≤ fuel) :
    (w.runCancelled scope fuel a).1.allFinished = true := by
  induction fuel generalizing w a n with
  | zero =>
    rw [Nat.le_zero.mp hfuel] at hdue
    exact allFinished_of_due hdue hhanging
  | succ fuel ih =>
    rw [runCancelled]
    cases hresult : w.result? with
    | some s => exact allFinished_of_result? hresult
    | none =>
      dsimp only
      split
      · exact (stopping_cancel _).round scope _
      · next hnone => exact ih (hdue.round scope) (Bool.eq_false_iff.mpr hnone) (by omega)

/-- The patience that is given to a wait depends on its slowest helper. -/
theorem patience_eq_slowest (a : Activity) : a.patience = 5 + slowest a.helpers := rfl

/-- In the patience that a wait for calls is given, it comes to its end if it has a deadline. -/
theorem allFinished_run_ofPending (scope : Option Nat) (d : Deadline) (calls : List Pending)
    (a : Activity) : ((ofPending calls).run scope (some d) a.patience 0 a).1.allFinished = true := by
  have hdue : (ofPending calls).Due a.helpers (slowest a.helpers + 1 + 1) := fun t ht =>
    Nat.le_succ_of_le (due_ofPending a.helpers calls t ht)
  have hpatience : a.patience = slowest a.helpers + 3 + 2 := by
    rw [patience_eq_slowest]
    omega
  rw [hpatience]
  exact allFinished_run d (slowest a.helpers + 1) rfl hdue (by omega) (by omega)

/-- So it does if it is cancelled once a task hangs. -/
theorem allFinished_runCancelled_ofPending (scope : Option Nat) (calls : List Pending) (a : Activity) :
    ((ofPending calls).runCancelled scope a.patience a).1.allFinished = true := by
  have hpatience : slowest a.helpers + 1 ≤ a.patience := by
    rw [patience_eq_slowest]
    omega
  exact allFinished_runCancelled (due_ofPending a.helpers calls) (anyHanging_ofPending calls) hpatience

end Settling
end DeferredViews.Deferred
