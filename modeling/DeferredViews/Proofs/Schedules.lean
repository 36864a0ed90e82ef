import DeferredViews.Deferred.Waiting
import Mathlib.Logic.Relation

/-!
# Waits under any schedule

The tasks of a wait may make their steps in any order and any number, and other work may go on
between them. A task that has finished stays as it is, so what the wait comes to is settled by what
each call came to, read in registration order: it never shows in which order the calls finished.
-/
namespace DeferredViews.Deferred

/-- Other work between two steps of a wait: it may do anything but forget helpers. -/
def Elsewhere (a b : Activity) : Prop := a.helpers <+: b.helpers

theorem Elsewhere.of_eq {a b : Activity} (h : b.helpers = a.helpers) : Elsewhere a b :=
  ⟨[], by rw [List.append_nil, h]⟩

/-- One move of a wait: a task makes a step, or other work goes on. -/
inductive Move (scope : Option Nat) : Settling × Activity → Settling × Activity → Prop
  | task {w : Settling} {a : Activity} (i : Nat) (t : Task) (h : w.tasks[i]? = some t) :
    Move scope (w, a)
      ({ w with tasks := w.tasks.set i (t.step scope a).1 }, (t.step scope a).2)
  | elsewhere {w : Settling} {a b : Activity} (h : Elsewhere a b) : Move scope (w, a) (w, b)

/-- Any number of moves in any order. -/
abbrev Schedule (scope : Option Nat) := Relation.ReflTransGen (Move scope)

theorem helpers_putOff (a : Activity) (scope : Option Nat) (name : String) (helper : Nat)
    (args : List Value) (kwargs : Locals) :
    (a.putOff scope name helper args kwargs).2.helpers = a.helpers := by
  cases scope <;> rfl

theorem helpers_answer (scope : Option Nat) (reply : Reply) (a : Activity) :
    (answer scope reply a).2.helpers = a.helpers := by
  cases reply with
  | defer helper args kwargs wrap =>
    have h := helpers_putOff a scope "" helper args kwargs
    rw [answer]
    split
    · next heq => simpa [heq] using h
    · next heq => simpa [heq] using h
  | _ => rfl

theorem helpers_conclude (scope : Option Nat) (h : Helper) (call : Call) (a : Activity) :
    (Task.conclude scope h call a).2.helpers = a.helpers := by
  have ha := helpers_answer scope (h.body call) a
  rw [Task.conclude]
  split <;> next heq => simpa [heq] using ha

namespace Task

variable {scope : Option Nat} {t : Task} {a b : Activity}

/-- A task whose helper is unknown has come to nothing but null. -/
def Sound (a : Activity) (t : Task) : Prop :=
  a.helpers[t.call.helper]? = none → ∀ o, t.outcome? = some o → o = .value .null

theorem Sound.elsewhere (h : t.Sound a) (hab : Elsewhere a b) : t.Sound b := by
  intro hunknown
  refine h ?_
  rw [List.getElem?_eq_none_iff] at hunknown ⊢
  exact Nat.le_trans hab.length_le hunknown

@[simp] theorem call_step (scope : Option Nat) (t : Task) (a : Activity) :
    (t.step scope a).1.call = t.call := by
  rw [step]
  split <;> rfl

theorem helpers_step (scope : Option Nat) (t : Task) (a : Activity) :
    (t.step scope a).2.helpers = a.helpers := by
  rw [step]
  split
  · rfl
  · next h _ =>
    show (t.advance scope h a).2.helpers = a.helpers
    rw [advance]
    split
    · dsimp only
      split
      · rfl
      · exact helpers_conclude ..
    · exact helpers_conclude ..
    · rfl
    · rfl
    · split <;> rfl
    · rfl

theorem state_of_outcome? {o : Outcome} (h : t.outcome? = some o) : t.state = .finished o := by
  rw [outcome?] at h
  split at h
  · next heq =>
    cases h
    exact heq
  · cases h

/-- A finished task stays as it is. -/
theorem outcome?_step_of_finished (hsound : t.Sound a) {o : Outcome} (h : t.outcome? = some o) :
    (t.step scope a).1.outcome? = some o := by
  have hstate := state_of_outcome? h
  cases hhelper : a.helpers[t.call.helper]? with
  | none =>
    rw [hsound hhelper o h, step, hhelper]
    rfl
  | some helper =>
    have hadvance : (t.advance scope helper a).1 = .finished o := by rw [advance, hstate]
    rw [step, hhelper]
    show Task.outcome? { t with state := (t.advance scope helper a).1 } = some o
    rw [outcome?, hadvance]

theorem sound_step (scope : Option Nat) (t : Task) (a : Activity) :
    (t.step scope a).1.Sound (t.step scope a).2 := by
  intro hunknown o h
  rw [call_step, helpers_step] at hunknown
  rw [step, hunknown] at h
  exact (Option.some.inj h).symm

/-- A task that is finished or told to stop. -/
def Stopping (t : Task) : Prop := t.isFinished = true ∨ ∃ hung, t.state = .cancelling hung

theorem stopping_cancel (t : Task) : t.cancel.Stopping := by
  rw [cancel]
  split
  · next o heq =>
    left
    rw [isFinished, outcome?, heq]
    rfl
  · exact .inr ⟨true, rfl⟩
  · next hung heq => exact .inr ⟨hung, rfl⟩
  · exact .inr ⟨false, rfl⟩

/-- One step finishes a task that was told to stop. -/
theorem isFinished_step (h : t.Stopping) (scope : Option Nat) (a : Activity) :
    (t.step scope a).1.isFinished = true := by
  rw [step]
  split
  · rfl
  · next helper _ =>
    rcases h with h | ⟨hung, h⟩
    · obtain ⟨o, ho⟩ := Option.isSome_iff_exists.mp h
      have hstate := state_of_outcome? ho
      simp only [advance, hstate]
      rfl
    · simp only [advance, h]
      rfl


end Task

/-- What a reply comes to by itself: an outcome, or nothing ever. A reply that puts off another call
comes to nothing by itself. -/
def Reply.end? : Reply → Option (Option Outcome)
  | .value v => some (some (.value v))
  | .fault f => some (some (.fault f))
  | .cancelled message => some (some (.cancelled message))
  | .hang => some none
  | .defer .. => none

/-- A call that always comes to the same, however often its helper was started before. -/
def Pending.Always (a : Activity) (c : Pending) (o : Option Outcome) : Prop :=
  ∃ h, a.helpers[c.helper]? = some h ∧
    ∀ earlier, (h.body ⟨c.args, c.kwargs, earlier⟩).end? = some o

theorem Pending.Always.elsewhere {a b : Activity} {c : Pending} {o : Option Outcome}
    (h : c.Always a o) (hab : Elsewhere a b) : c.Always b o := by
  obtain ⟨helper, hhelper, hreply⟩ := h
  refine ⟨helper, ?_, hreply⟩
  obtain ⟨more, hmore⟩ := hab
  rw [← hmore, List.getElem?_append_left (List.getElem?_eq_some_iff.mp hhelper).1]
  exact hhelper

/-- The state of a task whose body has answered. -/
def TaskState.ofEnd : Option Outcome → TaskState
  | some o => .finished o
  | none => .hanging

theorem conclude_of_end? {h : Helper} {call : Call} {o : Option Outcome}
    (ho : (h.body call).end? = some o) (scope : Option Nat) (a : Activity) :
    Task.conclude scope h call a = (.ofEnd o, a) := by
  rw [Task.conclude]
  generalize h.body call = reply at ho ⊢
  cases reply with
  | value v =>
    cases ho
    rfl
  | fault f =>
    cases ho
    rfl
  | cancelled message =>
    cases ho
    rfl
  | hang =>
    cases ho
    rfl
  | defer helper args kwargs wrap => cases ho

/-- The states of a call on its way to an outcome, or on its way nowhere. -/
def TaskState.Toward (c : Pending) (o : Option Outcome) : TaskState → Prop
  | .ready => True
  | .pausing _ call => call.args = c.args ∧ call.kwargs = c.kwargs
  | .hanging => o = none
  | .cancelling _ => False
  | .finished o' => o = some o'

theorem TaskState.toward_ofEnd (c : Pending) (o : Option Outcome) : (ofEnd o).Toward c o := by
  cases o <;> rfl

/-- How many steps a call takes until its body answers. -/
def Helper.rounds (h : Helper) : Nat := if h.isTask then h.pauses + 1 else 1

theorem Helper.rounds_pos (h : Helper) : 0 < h.rounds := by
  rw [rounds]
  split
  · exact Nat.succ_pos _
  · exact Nat.one_pos

/-- The pauses of the slowest helper. -/
def slowest (helpers : List Helper) : Nat := (helpers.map (·.pauses)).foldl max 0

theorem rounds_le_slowest {helpers : List Helper} {h : Helper} (hmem : h ∈ helpers) :
    h.rounds ≤ slowest helpers + 1 := by
  have hfrom : ∀ (ns : List Nat) (m : Nat), m ≤ ns.foldl max m ∧ ∀ n ∈ ns, n ≤ ns.foldl max m := by
    intro ns
    induction ns with
    | nil => exact fun m => ⟨Nat.le_refl m, nofun⟩
    | cons n ns ih =>
      intro m
      obtain ⟨hbase, hmore⟩ := ih (max m n)
      refine ⟨Nat.le_trans (Nat.le_max_left m n) hbase, ?_⟩
      intro k hk
      rcases List.mem_cons.mp hk with rfl | hk
      · exact Nat.le_trans (Nat.le_max_right m k) hbase
      · exact hmore k hk
  have hpauses : h.pauses ≤ slowest helpers :=
    (hfrom _ 0).2 _ (List.mem_map.mpr ⟨h, hmem, rfl⟩)
  rw [Helper.rounds]
  split
  · omega
  · omega

/-- How many steps a task may still take before its body answers. -/
def TaskState.left (h : Helper) : TaskState → Nat
  | .ready => h.rounds
  | .pausing left _ => left + 1
  | _ => 0

theorem TaskState.left_ofEnd (h : Helper) (o : Option Outcome) : (ofEnd o).left h = 0 := by
  cases o <;> rfl

namespace Task

variable {a b : Activity} {t : Task}

/-- A task on its way to what its call always comes to. -/
structure Follows (a : Activity) (o : Option Outcome) (t : Task) : Prop where
  always : t.call.Always a o
  toward : t.state.Toward t.call o

theorem Follows.elsewhere {o : Option Outcome} (h : t.Follows a o) (hab : Elsewhere a b) :
    t.Follows b o :=
  ⟨h.always.elsewhere hab, h.toward⟩

theorem Follows.outcome?_eq {o : Option Outcome} (h : t.Follows a o) {o' : Outcome}
    (ho : t.outcome? = some o') : o = some o' := by
  have htoward := h.toward
  rw [state_of_outcome? ho] at htoward
  exact htoward

/-- What one step of such a task does: it comes closer to its answer, and opens, closes or fills no
registry. -/
theorem Follows.advance {o : Option Outcome} (h : t.Follows a o) {helper : Helper}
    (hhelper : a.helpers[t.call.helper]? = some helper) (scope : Option Nat) :
    (t.advance scope helper a).1.Toward t.call o ∧
      (t.advance scope helper a).1.left helper ≤ t.state.left helper - 1 ∧
      (t.advance scope helper a).2.registries = a.registries ∧
      (t.advance scope helper a).2.ids = a.ids := by
  obtain ⟨helper', hhelper', hreply⟩ := h.always
  rw [hhelper] at hhelper'
  cases hhelper'
  have htoward := h.toward
  rw [Task.advance]
  cases hstate : t.state with
  | ready =>
    dsimp only
    split
    · next hpauses =>
      refine ⟨⟨rfl, rfl⟩, ?_, rfl, rfl⟩
      have hpositive : helper.pauses ≠ 0 := hpauses.2
      show helper.pauses - 1 + 1 ≤ helper.rounds - 1
      rw [Helper.rounds, if_pos hpauses.1]
      omega
    · rw [conclude_of_end? (hreply _)]
      refine ⟨TaskState.toward_ofEnd _ _, ?_, rfl, rfl⟩
      rw [TaskState.left_ofEnd]
      exact Nat.zero_le _
  | pausing left call =>
    rw [hstate] at htoward
    obtain ⟨hargs, hkwargs⟩ := htoward
    cases left with
    | zero =>
      obtain ⟨args, kwargs, earlier⟩ := call
      cases hargs
      cases hkwargs
      dsimp only
      rw [conclude_of_end? (hreply earlier)]
      refine ⟨TaskState.toward_ofEnd _ _, ?_, rfl, rfl⟩
      rw [TaskState.left_ofEnd]
      exact Nat.zero_le _
    | succ left => exact ⟨⟨hargs, hkwargs⟩, Nat.le_refl _, rfl, rfl⟩
  | hanging =>
    rw [hstate] at htoward
    exact ⟨htoward, Nat.le_refl _, rfl, rfl⟩
  | cancelling hung =>
    rw [hstate] at htoward
    exact htoward.elim
  | finished o' =>
    rw [hstate] at htoward
    exact ⟨htoward, Nat.le_refl _, rfl, rfl⟩

theorem follows_step {o : Option Outcome} (h : t.Follows a o) (scope : Option Nat) :
    (t.step scope a).1.Follows (t.step scope a).2 o := by
  obtain ⟨helper, hhelper, -⟩ := h.always
  have hstate : (t.step scope a).1.state = (t.advance scope helper a).1 := by
    rw [step, hhelper]
  refine ⟨?_, ?_⟩
  · rw [call_step]
    exact h.always.elsewhere (.of_eq (helpers_step scope t a))
  · rw [call_step, hstate]
    exact (h.advance hhelper scope).1

end Task

namespace Settling

/-- What two points of a wait have in common: the calls, how it is ending, and what the finished
calls came to. -/
structure Extends (w v : Settling) : Prop where
  calls : v.tasks.map (·.call) = w.tasks.map (·.call)
  ending : v.ending = w.ending
  kept : ∀ (i : Nat) (t u : Task) (o : Outcome), w.tasks[i]? = some t →
    v.tasks[i]? = some u → t.outcome? = some o → u.outcome? = some o

theorem Extends.refl (w : Settling) : w.Extends w := by
  refine ⟨rfl, rfl, ?_⟩
  intro i t u o ht hu ho
  rw [ht] at hu
  cases hu
  exact ho

theorem Extends.length {w v : Settling} (h : w.Extends v) : v.tasks.length = w.tasks.length := by
  simpa using congrArg List.length h.calls

theorem Extends.trans {w v u : Settling} (h : w.Extends v) (k : v.Extends u) : w.Extends u := by
  refine ⟨k.calls.trans h.calls, k.ending.trans h.ending, ?_⟩
  intro i t t' o ht ht' ho
  have hi : i < v.tasks.length := by
    rw [h.length]
    exact (List.getElem?_eq_some_iff.mp ht).1
  have hmid : v.tasks[i]? = some v.tasks[i] := List.getElem?_eq_getElem hi
  exact k.kept i _ t' o hmid ht' (h.kept i t _ o ht hmid ho)

/-- Every task is sound. -/
def Sound (w : Settling) (a : Activity) : Prop := ∀ t ∈ w.tasks, t.Sound a

theorem sound_ofPending (calls : List Pending) (a : Activity) : (ofPending calls).Sound a := by
  intro t ht hunknown o ho
  obtain ⟨c, -, rfl⟩ := List.mem_map.mp ht
  cases ho

/-- What one move keeps. -/
theorem move_extends {scope : Option Nat} {x y : Settling × Activity} (h : Move scope x y)
    (hsound : x.1.Sound x.2) : x.1.Extends y.1 ∧ y.1.Sound y.2 := by
  cases h with
  | @task w a i t ht =>
    have hi : i < w.tasks.length := (List.getElem?_eq_some_iff.mp ht).1
    have hmem : t ∈ w.tasks := List.mem_of_getElem? ht
    refine ⟨⟨?_, rfl, ?_⟩, ?_⟩
    · exact map_set_of_eq ht (Task.call_step scope t a)
    · intro j t' u o ht' hu ho
      replace hu : (w.tasks.set i (t.step scope a).1)[j]? = some u := hu
      rw [List.getElem?_set] at hu
      split at hu
      · next hij =>
        subst hij
        cases hu
        rw [ht] at ht'
        cases ht'
        exact Task.outcome?_step_of_finished (hsound t hmem) ho
      · rw [ht'] at hu
        cases hu
        exact ho
    · intro u hu
      rcases List.mem_or_eq_of_mem_set hu with hu | rfl
      · exact (hsound u hu).elsewhere (.of_eq (Task.helpers_step scope t a))
      · exact Task.sound_step scope t a
  | @elsewhere w a b hab =>
    exact ⟨Extends.refl w, fun t ht => (hsound t ht).elsewhere hab⟩

/-- What a whole schedule keeps. -/
theorem schedule_extends {scope : Option Nat} {x y : Settling × Activity}
    (h : Schedule scope x y) (hsound : x.1.Sound x.2) : x.1.Extends y.1 ∧ y.1.Sound y.2 := by
  induction h with
  | refl => exact ⟨Extends.refl _, hsound⟩
  | tail _ hmove ih =>
    have hstep := move_extends hmove ih.2
    exact ⟨ih.1.trans hstep.1, hstep.2⟩

/-- The calls with what each has come to so far, in registration order. -/
def outcomes (w : Settling) : List (Pending × Option Outcome) :=
  w.tasks.map fun t => (t.call, t.outcome?)

theorem expire_of_allFinished {w : Settling} (h : w.allFinished = true) : w.expire = w := by
  have hnone : w.tasks.filter (!·.isFinished) = [] := by
    rw [List.filter_eq_nil_iff]
    intro t ht
    rw [List.all_eq_true.mp h t ht]
    decide
  rw [expire, hnone]
  split <;> rfl

/-- The round that steps every task in order is made of moves. -/
theorem schedule_stepAll (scope : Option Nat) (ending : Option Ending) (before tasks : List Task)
    (a : Activity) :
    Schedule scope (⟨before ++ tasks, ending⟩, a)
      (⟨before ++ (stepAll scope tasks a).1, ending⟩, (stepAll scope tasks a).2) := by
  induction tasks generalizing before a with
  | nil => exact .refl
  | cons t more ih =>
    have ht : (before ++ t :: more)[before.length]? = some t := by simp
    have hmove : Move scope (⟨before ++ t :: more, ending⟩, a) _ := Move.task before.length t ht
    have hset : (before ++ t :: more).set before.length (t.step scope a).1 =
        (before ++ [(t.step scope a).1]) ++ more := by
      simp
    rw [hset] at hmove
    have hrest := ih (before ++ [(t.step scope a).1]) (t.step scope a).2
    rw [List.append_assoc, List.append_assoc] at hrest
    rw [List.append_assoc] at hmove
    exact .head hmove hrest

theorem schedule_round (scope : Option Nat) (w : Settling) (a : Activity) :
    Schedule scope (w, a) (w.round scope a) :=
  schedule_stepAll scope w.ending [] w.tasks a

theorem allFinished_stepAll {scope : Option Nat} {tasks : List Task}
    (h : ∀ t ∈ tasks, t.Stopping) (a : Activity) :
    (stepAll scope tasks a).1.all (·.isFinished) = true := by
  induction tasks generalizing a with
  | nil => rfl
  | cons t more ih =>
    have hhead := Task.isFinished_step (h t List.mem_cons_self) scope a
    have htail := ih (fun u hu => h u (List.mem_cons_of_mem _ hu)) (t.step scope a).2
    rw [stepAll, List.all_cons, hhead, htail]
    rfl

/-- Every task is finished or told to stop. -/
def Stopping (w : Settling) : Prop := ∀ t ∈ w.tasks, t.Stopping

theorem stopping_expire {w : Settling} (hopen : w.ending = none) : w.expire.Stopping := by
  rw [expire, hopen]
  dsimp only
  split
  · next hnone =>
    intro t ht
    have hfinished := List.filter_eq_nil_iff.mp hnone t ht
    rw [Bool.not_eq_true, Bool.not_eq_false'] at hfinished
    exact .inl hfinished
  · intro t ht
    obtain ⟨u, -, rfl⟩ := List.mem_map.mp ht
    exact Task.stopping_cancel u

theorem stopping_cancel (w : Settling) : w.cancel.Stopping := by
  intro t ht
  obtain ⟨u, -, rfl⟩ := List.mem_map.mp ht
  exact Task.stopping_cancel u

/-- A wait has a result once all its tasks have finished, and not before. -/
theorem isSome_result? (w : Settling) : w.result?.isSome = w.allFinished := by
  rw [result?]
  split
  · next hall => exact hall.symm
  · next hopen => exact (Bool.eq_false_iff.mpr hopen).symm

theorem allFinished_of_result? {w : Settling} {s : Settled} (h : w.result? = some s) :
    w.allFinished = true := by
  rw [← isSome_result?, h]
  rfl

/-- A wait whose tasks are finished or told to stop is over one round later. -/
theorem Stopping.round {w : Settling} (h : w.Stopping) (scope : Option Nat) (a : Activity) :
    (w.round scope a).1.allFinished = true :=
  allFinished_stepAll h a

end Settling
end DeferredViews.Deferred
