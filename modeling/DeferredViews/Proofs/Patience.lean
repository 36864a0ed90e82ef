import DeferredViews.Proofs.Peers
import DeferredViews.Proofs.Rounds

/-!
# How long a render needs

After as many rounds as its slowest helper takes, the wait of a render has ended, or is being ended,
or has come to rest for ever. To go on for longer then changes nothing, so the bound on the stages of
a render never cuts one short.
-/
namespace DeferredViews.View

open Deferred

/-- What a render comes to within so many stages: to go on for longer changes nothing. -/
def ComesTo (r : Request) (n : Nat) (x : Stage × Site) (result : Except Stop String) : Prop :=
  ∀ m, n ≤ m → (runStages r m x.1 x.2).1.resultOrCancelled = result

namespace ComesTo

variable {r : Request} {n k : Nat} {x : Stage × Site} {result : Except Stop String}

theorem mono (h : ComesTo r n x result) (hn : n ≤ k) : ComesTo r k x result :=
  fun m hm => h m (Nat.le_trans hn hm)

theorem ended (r : Request) (n : Nat) (result : Except Stop String) (s : Site) :
    ComesTo r n (.ended result, s) result := by
  intro m _
  rw [runStages_ended]
  rfl

theorem succ {stage : Stage} {s : Site} (h : ComesTo r n (stage.step r s) result)
    (hopen : stage.result? = none) : ComesTo r (n + 1) (stage, s) result := by
  intro m hm
  obtain ⟨m, rfl⟩ : ∃ k, m = k + 1 := ⟨m - 1, by omega⟩
  rw [runStages_succ r m s hopen]
  exact h m (by omega)

end ComesTo

/-- A render comes to something within so many stages. -/
def SettlesIn (r : Request) (n : Nat) (x : Stage × Site) : Prop := ∃ result, ComesTo r n x result

namespace SettlesIn

variable {r : Request} {n k : Nat} {x : Stage × Site}

theorem mono (h : SettlesIn r n x) (hn : n ≤ k) : SettlesIn r k x :=
  h.imp fun _ hresult => hresult.mono hn

theorem ended (r : Request) (n : Nat) (result : Except Stop String) (s : Site) :
    SettlesIn r n (.ended result, s) :=
  ⟨result, .ended r n result s⟩

theorem succ {stage : Stage} {s : Site} (h : SettlesIn r n (stage.step r s))
    (hopen : stage.result? = none) : SettlesIn r (n + 1) (stage, s) :=
  h.imp fun _ hresult => hresult.succ hopen

end SettlesIn

variable {r : Request} {q rounds : Nat} {page : String} {w : Settling} {s : Site}

/-- Where a round of a wait leads that goes on by itself: to the end, to a wait whose tasks are
told to stop, or to the next round before the deadline has passed. -/
theorem step_settling_cases (r : Request) (q : Nat) (page : String) (rounds : Nat)
    (hopen : w.ending = none) (s : Site) :
    (∃ x t, Stage.step r (.settling q page rounds w) s = (.ended x, t)) ∨
      (∃ v t, Stage.step r (.settling q page rounds w) s = (.settling q page (rounds + 1) v, t) ∧
        v.Stopping) ∨
      ∃ deadline, deadlineOf (s.engine r.engine).timeout = .ok deadline ∧
        (deadline.any fun d => d.hasPassed (rounds + 1) (w.round (some q) s.activity).1) = false ∧
        (w.round (some q) s.activity).1.result? = none ∧
        Stage.step r (.settling q page rounds w) s =
          (.settling q page (rounds + 1) (w.round (some q) s.activity).1,
            { s with activity := (w.round (some q) s.activity).2 }) := by
  cases hdeadline : deadlineOf (s.engine r.engine).timeout with
  | error f => exact .inl ⟨_, _, step_settling_error r page q rounds w hdeadline⟩
  | ok deadline =>
    have hnone := step_settling_none r page q rounds w hdeadline
    have hsome := fun settled : Settled => @step_settling_some r page q rounds w s _ hdeadline settled
    rw [Settling.advance] at hnone hsome
    dsimp only at hnone hsome
    cases hpassed : deadline.any fun d =>
        d.hasPassed (rounds + 1) (w.round (some q) s.activity).1 with
    | true =>
      rw [hpassed, if_pos rfl] at hnone hsome
      have hending : (w.round (some q) s.activity).1.ending = none := hopen
      cases hresult : (w.round (some q) s.activity).1.expire.result? with
      | some settled =>
        obtain ⟨log, hstep⟩ := hsome settled hresult
        exact .inl ⟨_, _, hstep⟩
      | none => exact .inr (.inl ⟨_, _, hnone hresult, Settling.stopping_expire hending⟩)
    | false =>
      rw [hpassed, if_neg Bool.false_ne_true] at hnone hsome
      cases hresult : (w.round (some q) s.activity).1.result? with
      | some settled =>
        obtain ⟨log, hstep⟩ := hsome settled hresult
        exact .inl ⟨_, _, hstep⟩
      | none => exact .inr (.inr ⟨deadline, rfl, hpassed, rfl, hnone hresult⟩)

/-- A wait whose tasks have all been told to stop ends with the next round. -/
theorem settlesIn_stopping (r : Request) (q : Nat) (page : String) (rounds : Nat) (s : Site)
    (hstop : w.Stopping) : SettlesIn r 1 (.settling q page rounds w, s) := by
  refine SettlesIn.succ ?_ rfl
  cases hdeadline : deadlineOf (s.engine r.engine).timeout with
  | error f =>
    rw [step_settling_error r page q rounds w hdeadline]
    exact .ended r 0 _ s
  | ok deadline =>
    have hall := hstop.round (some q) s.activity
    obtain ⟨settled, hresult⟩ := Option.isSome_iff_exists.mp ((Settling.isSome_result? _).trans hall)
    have hadvance : (w.advance (some q) deadline rounds s.activity).1.result? = some settled := by
      rw [Settling.advance]
      dsimp only
      rw [Settling.expire_of_allFinished hall, ite_self, hresult]
    obtain ⟨log, hstep⟩ := step_settling_some r page q rounds w hdeadline hadvance
    rw [hstep]
    exact .ended r 0 _ _

/-- A wait without a deadline in which only hanging tasks are left never ends. -/
theorem settlesIn_rest (hdeadline : deadlineOf (s.engine r.engine).timeout = .ok none)
    (hdue : w.Due s.activity.helpers 0) (hsound : w.Sound s.activity) (hresult : w.result? = none)
    (rounds : Nat) : SettlesIn r 0 (.settling q page rounds w, s) := by
  refine ⟨.error (.interrupt (.cancelled "")), fun m _ => ?_⟩
  induction m generalizing rounds with
  | zero => rfl
  | succ m ih =>
    have hadvance : w.advance (some q) none rounds s.activity = (w, s.activity) :=
      Settling.round_of_due hdue hsound (some q)
    have hnone : (w.advance (some q) none rounds s.activity).1.result? = none := by
      rw [hadvance]
      exact hresult
    have hstep := step_settling_none r page q rounds w hdeadline hnone
    rw [hadvance] at hstep
    rw [runStages_succ r m s rfl, hstep]
    exact ih (rounds + 1) (Nat.zero_le m)

/-- Where only hanging tasks are left, a deadline passes unless it is the first round. -/
theorem rest_or_first {a : Activity} {deadline : Option Deadline} (hdue : w.Due a.helpers 0)
    (hpassed : (deadline.any fun d => d.hasPassed (rounds + 1) w) = false) :
    deadline = none ∨ rounds = 0 := by
  cases deadline with
  | none => exact .inl rfl
  | some d =>
    refine .inr ?_
    rw [Option.any_some, Deadline.hasPassed, Settling.onlyHanging_of_due hdue] at hpassed
    split at hpassed
    · have hrounds : ¬ 2 ≤ rounds + 1 := of_decide_eq_false hpassed
      omega
    · cases hpassed

/-- A wait whose tasks have finished or hang ends or comes to rest, at the latest when a deadline
without time has passed. -/
theorem settlesIn_of_due (r : Request) (q : Nat) (page : String) {rounds : Nat}
    (hopen : w.ending = none) (hdue : w.Due s.activity.helpers 0) (hsound : w.Sound s.activity) :
    (rounds ≠ 0 → SettlesIn r 2 (.settling q page rounds w, s)) ∧
      SettlesIn r 3 (.settling q page rounds w, s) := by
  have hround := Settling.round_of_due hdue hsound (some q)
  -- The first round counts apart: a deadline without time passes with the second round only.
  have hcases : ∀ rounds n, (rounds = 0 → SettlesIn r n (.settling q page 1 w, s)) → 1 ≤ n →
      SettlesIn r (n + 1) (.settling q page rounds w, s) := by
    intro rounds n hfirst hn
    refine SettlesIn.succ ?_ rfl
    rcases step_settling_cases r q page rounds hopen s with
      ⟨x, t, hstep⟩ | ⟨v, t, hstep, hstop⟩ | ⟨deadline, hdeadline, hpassed, hresult, hstep⟩
    · rw [hstep]
      exact .ended r n x t
    · rw [hstep]
      exact (settlesIn_stopping r q page (rounds + 1) t hstop).mono hn
    · rw [hround] at hpassed hresult hstep
      rw [hstep]
      rcases rest_or_first hdue hpassed with rfl | rfl
      · exact (settlesIn_rest hdeadline hdue hsound hresult (rounds + 1)).mono (Nat.zero_le n)
      · exact hfirst rfl
  have hpositive : ∀ rounds, rounds ≠ 0 → SettlesIn r 2 (.settling q page rounds w, s) :=
    fun rounds hrounds => hcases rounds 1 (fun h => absurd h hrounds) (Nat.le_refl 1)
  exact ⟨hpositive rounds, hcases rounds 2 (fun _ => hpositive 1 Nat.one_ne_zero) (Nat.le_succ 1)⟩

/-- A wait that goes on by itself ends or comes to rest a few rounds after its tasks have. -/
theorem settlesIn_settling (r : Request) (q : Nat) (page : String) (n : Nat) {rounds : Nat}
    (hopen : w.ending = none) (hdue : w.Due s.activity.helpers n) (hsound : w.Sound s.activity) :
    SettlesIn r (n + 3) (.settling q page rounds w, s) := by
  -- A round that neither ends nor stops the wait leaves every task one round less to go.
  induction n generalizing rounds w s with
  | zero => exact (settlesIn_of_due r q page hopen hdue hsound).2
  | succ n ih =>
    refine SettlesIn.succ ?_ rfl
    rcases step_settling_cases r q page rounds hopen s with
      ⟨x, t, hstep⟩ | ⟨v, t, hstep, hstop⟩ | ⟨deadline, -, -, -, hstep⟩
    · rw [hstep]
      exact .ended r (n + 3) x t
    · rw [hstep]
      exact (settlesIn_stopping r q page (rounds + 1) t hstop).mono (Nat.le_add_left 1 (n + 2))
    · rw [hstep]
      exact ih hopen (hdue.round (some q)) (hsound.round (some q))

/-- The patience that is given to a render depends on its slowest helper. -/
theorem patience_eq_slowest (s : Site) : patience s = 10 + slowest s.activity.helpers := by
  rw [patience, Settling.patience_eq_slowest]
  omega

/-- A wait for the calls that a page put off needs little more than its slowest helper. -/
theorem settlesIn_ofPending (r : Request) (q : Nat) (page : String) (calls : List Pending)
    (s : Site) :
    SettlesIn r (slowest s.activity.helpers + 4) (.settling q page 0 (.ofPending calls), s) :=
  settlesIn_settling r q page (slowest s.activity.helpers + 1) rfl
    (Settling.due_ofPending s.activity.helpers calls)
    (Settling.sound_ofPending calls s.activity)

end DeferredViews.View
