import DeferredViews.Proofs.Books
import DeferredViews.View.Awaited

/-!
# Whole lives of registries

Registries are opened, calls are put off, and waits take what is pending, at any time and in any
order, while helpers run and put off calls themselves and waits run out of time or are cancelled.
Whatever happens, no placeholder is issued twice, no call is started twice, and a wait whose tasks
all came to run has started the calls that were pending when it began, in their order.
-/
namespace DeferredViews.Deferred

open Relation

/-- A wait for the calls of a registry, with the scope in which its tasks run. -/
structure Wait where
  registry : Nat
  scope : Option Nat
  settling : Settling
  /-- Whether it was cancelled before each of its tasks had run for the first time. -/
  hurried : Bool := false

namespace Wait

def calls (w : Wait) : List Pending := w.settling.tasks.map (·.call)

/-- Its calls among those that were started. -/
def startedIn (w : Wait) (started : List Pending) : List Pending :=
  started.filter fun c => c.token ∈ w.calls.map (·.token)

/-- Whether each of its tasks has run, or will never do so. -/
def allRun (w : Wait) : Bool := w.settling.tasks.all (!·.isReady)

/-- The tasks that are to run, and those that have run, when so many calls were started. -/
def Begun (w : Wait) (k : Nat) : Prop :=
  ∀ j t, w.settling.tasks[j]? = some t → (t.isReady = true ↔ k ≤ j ∧ w.hurried = false)

def setTask (w : Wait) (j : Nat) (t : Task) : Wait :=
  { w with settling := { w.settling with tasks := w.settling.tasks.set j t } }

def expire (w : Wait) : Wait := { w with settling := w.settling.expire }

def cancel (w : Wait) : Wait :=
  { w with settling := w.settling.cancel, hurried := w.hurried || !w.allRun }

variable {w : Wait}

theorem startedIn_append_of_mem {c : Pending} (hc : c ∈ w.calls) (started : List Pending) :
    w.startedIn (started ++ [c]) = w.startedIn started ++ [c] := by
  rw [startedIn, List.filter_append, List.filter_cons_of_pos (by simpa using ⟨c, hc, rfl⟩)]
  rfl

theorem startedIn_append_of_notMem {c : Pending} (hc : c.token ∉ w.calls.map (·.token))
    (started : List Pending) : w.startedIn (started ++ [c]) = w.startedIn started := by
  rw [startedIn, List.filter_append, List.filter_cons_of_neg (by simpa using hc), List.filter_nil,
    List.append_nil, startedIn]

/-- What a wait has started is told by its calls. -/
theorem startedIn_congr {v : Wait} (hcalls : v.calls = w.calls) (started : List Pending) :
    v.startedIn started = w.startedIn started := by
  rw [startedIn, startedIn, hcalls]

theorem calls_setTask {j : Nat} {t u : Task} (ht : w.settling.tasks[j]? = some t)
    (hcall : u.call = t.call) : (w.setTask j u).calls = w.calls :=
  map_set_of_eq ht hcall

theorem calls_cancel (w : Wait) : w.cancel.calls = w.calls := by
  rw [calls, calls, cancel, Settling.cancel, List.map_map]
  exact List.map_congr_left fun t _ => t.call_cancel

theorem cancel_of_allRun (h : w.allRun = true) :
    w.cancel = { w with settling := w.settling.cancel } := by
  rw [cancel, h, Bool.not_true, Bool.or_false]

theorem calls_expire (w : Wait) : w.expire.calls = w.calls := by
  rw [calls, calls, expire, Settling.expire]
  split
  · rfl
  split
  · rfl
  · rw [List.map_map]
    exact List.map_congr_left fun t _ => t.call_cancel

/-- A wait whose tasks were all told to stop has none left that has not run. -/
theorem not_isReady_cancel {t : Task} (ht : t ∈ w.settling.tasks.map Task.cancel) :
    t.isReady = false := by
  obtain ⟨u, -, rfl⟩ := List.mem_map.mp ht
  exact u.isReady_cancel

theorem calls_ofPending (r : Nat) (scope : Option Nat) (pending : List Pending) :
    calls { registry := r, scope, settling := .ofPending pending } = pending :=
  Settling.call_ofPending pending

theorem begun_ofPending (r : Nat) (scope : Option Nat) (calls : List Pending) :
    Begun { registry := r, scope, settling := .ofPending calls } 0 := by
  intro j t ht
  obtain ⟨c, -, rfl⟩ := List.mem_map.mp (List.mem_of_getElem? ht)
  exact ⟨fun _ => ⟨Nat.zero_le j, rfl⟩, fun _ => rfl⟩

/-- A task that has run, or will never do so, goes on. -/
theorem Begun.setTask {k : Nat} (h : w.Begun k) {j : Nat} {t u : Task}
    (ht : w.settling.tasks[j]? = some t) (hready : t.isReady = false) (hu : u.isReady = false) :
    (w.setTask j u).Begun k := by
  intro i v hv
  by_cases hij : j = i
  · subst hij
    have hj := (List.getElem?_eq_some_iff.mp ht).1
    rw [Wait.setTask, List.getElem?_set_self hj] at hv
    cases hv
    have hstate := h j t ht
    rw [hready] at hstate
    rw [hu]
    exact hstate
  · rw [Wait.setTask, List.getElem?_set_ne hij] at hv
    exact h i v hv

/-- The first task that has not run yet starts. -/
theorem Begun.start {k : Nat} (h : w.Begun k) {j : Nat} {t u : Task}
    (ht : w.settling.tasks[j]? = some t) (hready : t.isReady = true) (hu : u.isReady = false)
    (hturn : ∀ i v, i < j → w.settling.tasks[i]? = some v → v.isReady = false) :
    k = j ∧ (w.setTask j u).Begun (j + 1) := by
  obtain ⟨hkj, hhurried⟩ := (h j t ht).mp hready
  have hj := (List.getElem?_eq_some_iff.mp ht).1
  have hk : k = j := by
    by_contra hne
    have hlt : k < j := Nat.lt_of_le_of_ne hkj hne
    have hget : w.settling.tasks[k]? = some w.settling.tasks[k] := List.getElem?_eq_getElem (by omega)
    have hfirst := (h k _ hget).mpr ⟨Nat.le_refl k, hhurried⟩
    rw [hturn k _ hlt hget] at hfirst
    cases hfirst
  refine ⟨hk, ?_⟩
  intro i v hv
  have hsame : (w.setTask j u).hurried = w.hurried := rfl
  rw [hsame]
  by_cases hij : j = i
  · subst hij
    rw [Wait.setTask, List.getElem?_set_self hj] at hv
    cases hv
    rw [hu]
    refine ⟨nofun, ?_⟩
    rintro ⟨hle, -⟩
    exact absurd hle (Nat.not_succ_le_self j)
  · rw [Wait.setTask, List.getElem?_set_ne hij] at hv
    rw [h i v hv]
    refine and_congr_left fun _ => ?_
    omega

theorem allRun_iff : w.allRun = true ↔ ∀ t ∈ w.settling.tasks, t.isReady = false := by
  simp [allRun]

/-- Where every task has run, it does not matter which of them are told to stop. -/
theorem Begun.stopped {k : Nat} (h : w.Begun k) (hrun : w.allRun = true) {v : Wait}
    (hhurried : v.hurried = w.hurried) (hlength : v.settling.tasks.length = w.settling.tasks.length)
    (hready : ∀ t ∈ v.settling.tasks, t.isReady = false) : v.Begun k := by
  intro j t ht
  have hj : j < w.settling.tasks.length := hlength ▸ (List.getElem?_eq_some_iff.mp ht).1
  have hget := List.getElem?_eq_getElem hj
  have hold := h j _ hget
  rw [allRun_iff.mp hrun _ (List.mem_of_getElem? hget)] at hold
  rw [hready t (List.mem_of_getElem? ht), hhurried]
  exact hold

/-- A wait each of whose tasks has run, and that was not cancelled before, has started all. -/
theorem Begun.take_eq {k : Nat} (h : w.Begun k) (hhurried : w.hurried = false)
    (hrun : w.allRun = true) : w.calls.take k = w.calls := by
  refine List.take_of_length_le ?_
  rw [calls, List.length_map]
  by_contra hlong
  have hget := List.getElem?_eq_getElem (Nat.lt_of_not_le hlong)
  have hready := (h k _ hget).mpr ⟨Nat.le_refl k, hhurried⟩
  rw [allRun_iff.mp hrun _ (List.mem_of_getElem? hget)] at hready
  cases hready

theorem allRun_expire (hrun : w.allRun = true) : w.expire.allRun = true := by
  rw [allRun_iff] at hrun ⊢
  intro t ht
  rw [expire, Settling.expire] at ht
  split at ht
  · exact hrun t ht
  split at ht
  · exact hrun t ht
  · exact not_isReady_cancel ht

/-- A wait that is over has run all its tasks. -/
theorem allRun_of_result? {settled : Settled} (h : w.settling.result? = some settled) :
    w.allRun = true := by
  have hall := List.all_eq_true.mp (Settling.allFinished_of_result? h)
  exact allRun_iff.mpr fun t ht => Task.isReady_of_finished (hall t ht)

theorem Begun.expire {k : Nat} (h : w.Begun k) (hrun : w.allRun = true) : w.expire.Begun k := by
  refine h.stopped hrun rfl ?_ (allRun_iff.mp (allRun_expire hrun))
  have hcalls := congrArg List.length w.calls_expire
  rwa [calls, calls, List.length_map, List.length_map] at hcalls

theorem Begun.cancel {k : Nat} (h : w.Begun k) : w.cancel.Begun k := by
  cases hrun : w.allRun with
  | true =>
    refine h.stopped hrun ?_ (List.length_map _) fun t => not_isReady_cancel
    rw [Wait.cancel, hrun, Bool.not_true, Bool.or_false]
  | false =>
    intro j t ht
    have hhurried : w.cancel.hurried = true := by
      rw [Wait.cancel, hrun, Bool.not_false, Bool.or_true]
    rw [not_isReady_cancel (List.mem_of_getElem? ht), hhurried]
    exact ⟨nofun, fun hlate => nomatch hlate.2⟩

end Wait

/-- All registries, all waits so far, and the calls that were started, in order. -/
structure Desk where
  activity : Activity
  waits : List Wait := []
  started : List Pending := []

namespace Desk

/-- What waits have taken, each with its registry. -/
def records (x : Desk) : List (Nat × List Pending) := x.waits.map fun w => (w.registry, w.calls)

/-- A wait takes the pending calls of a registry and makes a task of each. -/
def begin (x : Desk) (r : Nat) (scope : Option Nat) : Desk :=
  { x with
    activity := (x.activity.takePending r).2
    waits := x.waits ++
      [{ registry := r, scope, settling := .ofPending (x.activity.takePending r).1 }] }

def stepTask (x : Desk) (i : Nat) (w : Wait) (j : Nat) (t : Task) : Desk :=
  { activity := (t.step w.scope x.activity).2
    waits := x.waits.set i (w.setTask j (t.step w.scope x.activity).1)
    started := if t.isReady then x.started ++ [t.call] else x.started }

def expire (x : Desk) (i : Nat) (w : Wait) : Desk :=
  { x with waits := x.waits.set i w.expire }

def cancel (x : Desk) (i : Nat) (w : Wait) : Desk :=
  { x with waits := x.waits.set i w.cancel }

/-- What may happen next. The tasks of a wait run for the first time in the order in which they were
made, and before any deadline passes; but a wait may be cancelled at any time. -/
inductive Move : Desk → Desk → Prop
  | elsewhere (x : Desk) (b : Activity) (hids : b.ids = x.activity.ids)
    (hregistries : b.registries = x.activity.registries)
    (hhelpers : x.activity.helpers <+: b.helpers) (hclosed : b.Closed)
    (hstarts : x.activity.starts <+: b.starts) : Move x { x with activity := b }
  | opened (x : Desk) : Move x { x with activity := x.activity.openRegistry.2 }
  | registered (x : Desk) (r : Nat) (name : String) {helper : Nat}
    (hhelper : helper < x.activity.helpers.length) (args : List Value) (kwargs : Locals) :
    Move x { x with activity := (x.activity.register r name helper args kwargs).2 }
  | begun (x : Desk) (r : Nat) (scope : Option Nat) : Move x (x.begin r scope)
  | task (x : Desk) {i j : Nat} {w : Wait} {t : Task} (hw : x.waits[i]? = some w)
    (ht : w.settling.tasks[j]? = some t)
    (hturn : t.isReady = true →
      ∀ k u, k < j → w.settling.tasks[k]? = some u → u.isReady = false) :
    Move x (x.stepTask i w j t)
  | deadline (x : Desk) {i : Nat} {w : Wait} (hw : x.waits[i]? = some w) (hrun : w.allRun = true) :
    Move x (x.expire i w)
  | cancelled (x : Desk) {i : Nat} {w : Wait} (hw : x.waits[i]? = some w) : Move x (x.cancel i w)

/-- What every move keeps. -/
structure Kept (ids : Nat → String) (x : Desk) : Prop where
  ids : x.activity.ids = ids
  closed : x.activity.Closed
  books : Books x.activity x.records
  begun : ∀ (i : Nat) w, x.waits[i]? = some w → ∃ k, w.startedIn x.started = w.calls.take k ∧ w.Begun k
  origin : ∀ c ∈ x.started, ∃ w ∈ x.waits, c ∈ w.calls
  once : (x.started.map (·.token)).Nodup
  starts : (x.started.map (·.helper)).Sublist x.activity.starts

variable {ids : Nat → String} {x : Desk} {i : Nat} {w : Wait}

theorem records_set (hw : x.waits[i]? = some w) {v : Wait} (hregistry : v.registry = w.registry)
    (hcalls : v.calls = w.calls) :
    (x.waits.set i v).map (fun w => (w.registry, w.calls)) = x.records :=
  map_set_of_eq hw (by rw [hregistry, hcalls])

theorem kept_fresh {a : Activity} (hfresh : a.registries = []) (hclosed : a.Closed) :
    Kept a.ids ⟨a, [], []⟩ where
  ids := rfl
  closed := hclosed
  books := .of_fresh hfresh
  begun := fun _ _ => nofun
  origin := fun _ => nofun
  once := List.nodup_nil
  starts := List.nil_sublist _

theorem Kept.withActivity (h : Kept ids x) {b : Activity} (hids : b.ids = x.activity.ids)
    (hclosed : b.Closed) (hbooks : Books b x.records) (hstarts : x.activity.starts <+: b.starts) :
    Kept ids { x with activity := b } :=
  { h with
    ids := hids.trans h.ids
    closed := hclosed
    books := hbooks
    starts := h.starts.trans hstarts.sublist }

/-- A wait goes on, and may start a call. -/
theorem Kept.goOn (h : Kept ids x) (hw : x.waits[i]? = some w) {v : Wait}
    (hregistry : v.registry = w.registry) (hcalls : v.calls = w.calls) {b : Activity}
    (hids : b.ids = x.activity.ids) (hclosed : b.Closed) (hbooks : Books b x.records)
    {started : List Pending} (horigin : ∀ c ∈ started, c ∈ x.started ∨ c ∈ w.calls)
    (honce : (started.map (·.token)).Nodup)
    (hstarts : (started.map (·.helper)).Sublist b.starts)
    (hbegun : ∃ k, v.startedIn started = v.calls.take k ∧ v.Begun k)
    (hothers : ∀ j u, i ≠ j → x.waits[j]? = some u → u.startedIn started = u.startedIn x.started) :
    Kept ids ⟨b, x.waits.set i v, started⟩ where
  ids := hids.trans h.ids
  closed := hclosed
  books := by
    show Books b (List.map _ (x.waits.set i v))
    rw [records_set hw hregistry hcalls]
    exact hbooks
  begun := by
    intro j u hu
    by_cases hij : i = j
    · subst hij
      rw [List.getElem?_set_self (List.getElem?_eq_some_iff.mp hw).1] at hu
      cases hu
      exact hbegun
    · rw [List.getElem?_set_ne hij] at hu
      rw [hothers j u hij hu]
      exact h.begun j u hu
  origin := by
    intro c hc
    have hi := (List.getElem?_eq_some_iff.mp hw).1
    have hv : v ∈ x.waits.set i v := List.mem_of_getElem? (List.getElem?_set_self hi)
    rcases horigin c hc with hold | hnew
    · obtain ⟨u, hu, hmem⟩ := h.origin c hold
      obtain ⟨j, hj⟩ := List.mem_iff_getElem?.mp hu
      by_cases hij : i = j
      · subst hij
        rw [hw] at hj
        cases hj
        exact ⟨v, hv, by rwa [hcalls]⟩
      · exact ⟨u, List.mem_of_getElem? ((List.getElem?_set_ne hij).trans hj), hmem⟩
    · exact ⟨v, hv, by rwa [hcalls]⟩
  once := honce
  starts := hstarts

/-- A wait goes on without a start. -/
theorem Kept.replace (h : Kept ids x) (hw : x.waits[i]? = some w) {v : Wait}
    (hregistry : v.registry = w.registry) (hcalls : v.calls = w.calls)
    (hbegun : ∀ k, w.Begun k → v.Begun k) : Kept ids { x with waits := x.waits.set i v } := by
  refine h.goOn hw hregistry hcalls rfl h.closed h.books (fun c => .inl) h.once h.starts ?_
    fun _ _ _ _ => rfl
  obtain ⟨k, hstarted, hk⟩ := h.begun i w hw
  refine ⟨k, ?_, hbegun k hk⟩
  rw [Wait.startedIn_congr hcalls, hcalls]
  exact hstarted

theorem getElem?_records (hw : x.waits[i]? = some w) :
    x.records[i]? = some (w.registry, w.calls) := by
  rw [records, List.getElem?_map, hw]
  rfl

/-- The calls of waits are calls of helpers. -/
theorem Kept.known (h : Kept ids x) (hw : x.waits[i]? = some w) {j : Nat} {t : Task}
    (ht : w.settling.tasks[j]? = some t) : t.call.helper < x.activity.helpers.length := by
  refine (h.books.kept w.registry).known t.call (List.mem_append_left _ ?_)
  rw [takenOf, List.mem_flatMap]
  refine ⟨_, List.mem_of_getElem? (getElem?_records hw), ?_⟩
  rw [if_pos rfl]
  exact List.mem_map_of_mem (List.mem_of_getElem? ht)

/-- A call that comes after those of its wait that were started was not started. -/
theorem Kept.token_ne (h : Kept ids x) (hw : x.waits[i]? = some w) {k : Nat}
    (hstarted : w.startedIn x.started = w.calls.take k) {c : Pending} (hc : w.calls[k]? = some c)
    {d : Pending} (hd : d ∈ x.started) : d.token ≠ c.token := by
  intro heq
  have hbefore : d ∈ w.calls.take k := by
    rw [← hstarted, Wait.startedIn, List.mem_filter, decide_eq_true_eq, heq]
    exact ⟨hd, List.mem_map_of_mem (List.mem_of_getElem? hc)⟩
  have hafter : c ∈ w.calls.drop k := by
    refine List.mem_of_getElem? (i := 0) ?_
    rw [List.getElem?_drop]
    exact hc
  -- It would stand twice among the calls of the wait.
  have hnodup := h.books.nodup_of_mem (List.mem_of_getElem? (getElem?_records hw))
  dsimp only at hnodup
  rw [← List.take_append_drop k w.calls, List.map_append, List.nodup_append] at hnodup
  exact hnodup.2.2 _ (List.mem_map_of_mem hbefore) _ (List.mem_map_of_mem hafter) heq

/-- A wait starts the first of its calls that was not started. -/
theorem Kept.start (h : Kept ids x) (hw : x.waits[i]? = some w) {v : Wait}
    (hregistry : v.registry = w.registry) (hcalls : v.calls = w.calls) {b : Activity}
    (hids : b.ids = x.activity.ids) (hclosed : b.Closed) (hbooks : Books b x.records) {k : Nat}
    (hstarted : w.startedIn x.started = w.calls.take k) {c : Pending} (hc : w.calls[k]? = some c)
    (hstarts : b.starts = x.activity.starts ++ [c.helper]) (hbegun : v.Begun (k + 1)) :
    Kept ids ⟨b, x.waits.set i v, x.started ++ [c]⟩ := by
  have hmem : c ∈ w.calls := List.mem_of_getElem? hc
  refine h.goOn hw hregistry hcalls hids hclosed hbooks ?_ ?_ ?_ ⟨k + 1, ?_, hbegun⟩ ?_
  · intro d hd
    rcases List.mem_append.mp hd with hd | hd
    · exact .inl hd
    · rw [List.mem_singleton.mp hd]
      exact .inr hmem
  · rw [List.map_append, List.nodup_append]
    refine ⟨h.once, List.nodup_singleton _, ?_⟩
    intro token hold token' hlast
    obtain ⟨d, hd, rfl⟩ := List.mem_map.mp hold
    rw [List.mem_singleton.mp hlast]
    exact h.token_ne hw hstarted hc hd
  · rw [hstarts, List.map_append]
    exact h.starts.append (List.Sublist.refl _)
  · rw [Wait.startedIn_append_of_mem (hcalls ▸ hmem), Wait.startedIn_congr hcalls, hstarted, hcalls,
      List.take_add_one, hc]
    rfl
  · intro m u hm hu
    refine Wait.startedIn_append_of_notMem (fun hsame => ?_) x.started
    obtain ⟨d, hd, heq⟩ := List.mem_map.mp hsame
    exact h.books.token_ne_of_ne hm (getElem?_records hw) (getElem?_records hu) hmem hd heq.symm

theorem Kept.stepTask (h : Kept ids x) (hw : x.waits[i]? = some w) {j : Nat} {t : Task}
    (ht : w.settling.tasks[j]? = some t)
    (hturn : t.isReady = true →
      ∀ k u, k < j → w.settling.tasks[k]? = some u → u.isReady = false) :
    Kept ids (x.stepTask i w j t) := by
  have hcall : w.calls[j]? = some t.call := by
    rw [Wait.calls, List.getElem?_map, ht]
    rfl
  have hadds := Task.step_adds w.scope h.closed (h.known hw ht)
  have hu := Task.isReady_step w.scope t x.activity
  have hclosed : (t.step w.scope x.activity).2.Closed := by
    rw [Activity.Closed, hadds.helpers]
    exact h.closed
  have hcalls : (w.setTask j (t.step w.scope x.activity).1).calls = w.calls :=
    Wait.calls_setTask ht (Task.call_step w.scope t x.activity)
  have hregistry : (w.setTask j (t.step w.scope x.activity).1).registry = w.registry := rfl
  obtain ⟨k, hstarted, hk⟩ := h.begun i w hw
  rw [Desk.stepTask]
  cases hready : t.isReady with
  | false =>
    rw [hready] at hadds
    refine h.goOn hw hregistry hcalls hadds.ids hclosed (h.books.adds hadds) (fun c => .inl) h.once ?_
      ⟨k, ?_, hk.setTask ht hready hu⟩ fun _ _ _ _ => rfl
    · rw [hadds.starts]
      exact h.starts.trans (List.sublist_append_left _ _)
    · rw [Wait.startedIn_congr hcalls, hcalls]
      exact hstarted
  | true =>
    rw [hready] at hadds
    obtain ⟨rfl, hbegun⟩ := hk.start ht hready hu (hturn hready)
    rw [if_pos rfl]
    exact h.start hw hregistry hcalls hadds.ids hclosed (h.books.adds hadds) hstarted hcall
      hadds.starts hbegun

section Moves

variable (hid : ∀ r, IsRegistryId (ids r)) (hinj : Function.Injective ids)

include hid hinj

/-- A wait begins; none of its calls was started before. -/
theorem Kept.begin (h : Kept ids x) (r : Nat) (scope : Option Nat) : Kept ids (x.begin r scope) := by
  have hid : ∀ r, IsRegistryId (x.activity.ids r) := h.ids.symm ▸ hid
  have hinj : Function.Injective x.activity.ids := h.ids.symm ▸ hinj
  have hcalls := Wait.calls_ofPending r scope (x.activity.takePending r).1
  refine { h with books := ?_, begun := ?_, origin := ?_ }
  · show Books _ (List.map _ (x.waits ++ _))
    rw [List.map_append, List.map_singleton, hcalls]
    exact h.books.take hid hinj r
  · intro i w hw
    rcases Nat.lt_trichotomy i x.waits.length with hlt | rfl | hgt
    · rw [Desk.begin, List.getElem?_append_left hlt] at hw
      exact h.begun i w hw
    · rw [Desk.begin, List.getElem?_append_right (Nat.le_refl _), Nat.sub_self] at hw
      cases hw
      refine ⟨0, ?_, Wait.begun_ofPending r scope _⟩
      rw [Wait.startedIn, hcalls, List.take_zero, List.filter_eq_nil_iff]
      intro c hc hmem
      obtain ⟨w, hw, hcw⟩ := h.origin c hc
      rw [decide_eq_true_eq] at hmem
      obtain ⟨d, hd, heq⟩ := List.mem_map.mp hmem
      exact h.books.token_ne hid hinj hd (List.mem_map_of_mem hw) hcw heq.symm
    · have hlength : (x.begin r scope).waits.length = x.waits.length + 1 := List.length_append
      rw [List.getElem?_eq_none (by omega)] at hw
      cases hw
  · intro c hc
    obtain ⟨w, hw, hcw⟩ := h.origin c hc
    exact ⟨w, List.mem_append_left _ hw, hcw⟩

theorem Kept.move (h : Kept ids x) {y : Desk} (hmove : Move x y) : Kept ids y := by
  cases hmove with
  | elsewhere b hids hregistries hhelpers hclosed hstarts =>
    exact h.withActivity hids hclosed (h.books.congr hids hregistries hhelpers.length_le) hstarts
  | opened => exact h.withActivity rfl h.closed h.books.openRegistry (List.prefix_refl _)
  | registered r name hhelper args kwargs =>
    exact h.withActivity rfl h.closed (h.books.register r name hhelper args kwargs)
      (List.prefix_refl _)
  | begun r scope => exact h.begin hid hinj r scope
  | task hw ht hturn => exact h.stepTask hw ht hturn
  | deadline hw hrun =>
    exact h.replace hw rfl (Wait.calls_expire _) fun k hk => hk.expire hrun
  | cancelled hw => exact h.replace hw rfl (Wait.calls_cancel _) fun k hk => hk.cancel

theorem Kept.moves (h : Kept ids x) {y : Desk} (hmoves : ReflTransGen Move x y) : Kept ids y := by
  induction hmoves with
  | refl => exact h
  | tail _ hmove ih => exact ih.move hid hinj hmove

end Moves

/-- What is never forgotten: the names under which placeholders were issued, and the calls that
waits have taken. -/
structure Later (x y : Desk) : Prop where
  names : ∀ r, (x.activity.registry r).names <+: (y.activity.registry r).names
  waits : ∀ (i : Nat) w, x.waits[i]? = some w → ∃ v, y.waits[i]? = some v ∧ v.calls = w.calls

theorem Later.of_activity {b : Activity}
    (h : ∀ r, (x.activity.registry r).names <+: (b.registry r).names) :
    Later x { x with activity := b } :=
  ⟨h, fun _ w hw => ⟨w, hw, rfl⟩⟩

theorem Later.replace (hw : x.waits[i]? = some w) {v : Wait} (hcalls : v.calls = w.calls)
    {b : Activity} (started : List Pending)
    (hnames : ∀ r, (x.activity.registry r).names <+: (b.registry r).names) :
    Later x ⟨b, x.waits.set i v, started⟩ := by
  refine ⟨hnames, fun j u hu => ?_⟩
  by_cases hij : i = j
  · subst hij
    rw [hw] at hu
    cases hu
    exact ⟨v, List.getElem?_set_self (List.getElem?_eq_some_iff.mp hw).1, hcalls⟩
  · exact ⟨u, (List.getElem?_set_ne hij).trans hu, rfl⟩

theorem Kept.later_stepTask (h : Kept ids x) (hw : x.waits[i]? = some w) {j : Nat} {t : Task}
    (ht : w.settling.tasks[j]? = some t) : Later x (x.stepTask i w j t) := by
  have hadds := Task.step_adds w.scope h.closed (h.known hw ht)
  exact .replace hw (Wait.calls_setTask ht (Task.call_step w.scope t x.activity)) _ hadds.names

theorem Kept.later (h : Kept ids x) {y : Desk} (hmove : Move x y) : Later x y := by
  cases hmove with
  | elsewhere b hids hregistries hhelpers hclosed hstarts =>
    refine .of_activity fun r => ?_
    exact Registry.names_prefix_of_eq (Activity.registry_congr hregistries r)
  | opened =>
    refine .of_activity fun r => ?_
    show (x.activity.registry r).names <+: (x.activity.openRegistry.2.registry r).names
    by_cases heq : r = x.activity.registries.length
    · rw [Activity.registry_of_le (Nat.le_of_eq heq.symm)]
      exact List.nil_prefix
    · refine Registry.names_prefix_of_eq ?_
      rw [Activity.registry_openRegistry, if_neg heq]
  | registered r name hhelper args kwargs =>
    exact .of_activity (Activity.names_register _ r name _ args kwargs)
  | begun r scope =>
    refine ⟨fun q => ?_, fun i w hw => ⟨w, ?_, rfl⟩⟩
    · show (x.activity.registry q).names <+: ((x.activity.takePending r).2.registry q).names
      exact x.activity.names_takePending r q ▸ List.prefix_refl _
    · rw [Desk.begin, List.getElem?_append_left (List.getElem?_eq_some_iff.mp hw).1]
      exact hw
  | task hw ht hturn => exact h.later_stepTask hw ht
  | @deadline _ w hw hrun => exact .replace hw w.calls_expire _ fun _ => List.prefix_refl _
  | @cancelled _ w hw => exact .replace hw w.calls_cancel _ fun _ => List.prefix_refl _

theorem Kept.later_moves (hid : ∀ r, IsRegistryId (ids r)) (hinj : Function.Injective ids)
    (h : Kept ids x) {y : Desk} (hmoves : ReflTransGen Move x y) : Later x y := by
  induction hmoves with
  | refl => exact ⟨fun _ => List.prefix_refl _, fun _ w hw => ⟨w, hw, rfl⟩⟩
  | tail hbefore hmove ih =>
    have hlast := (h.moves hid hinj hbefore).later hmove
    refine ⟨fun r => (ih.names r).trans (hlast.names r), fun i w hw => ?_⟩
    obtain ⟨v, hv, hcalls⟩ := ih.waits i w hw
    obtain ⟨u, hu, hcalls'⟩ := hlast.waits i v hv
    exact ⟨u, hu, hcalls'.trans hcalls⟩

/-- Where a desk may come from another one, when a wait with its tasks is at some place. -/
structure Comes (x : Desk) (i : Nat) (w : Wait) (a : Activity) (y : Desk) : Prop where
  moves : ReflTransGen Move x y
  activity : y.activity = a
  wait : y.waits[i]? = some w

theorem Comes.trans {x y z : Desk} {v : Wait} {a b : Activity} (h : Comes x i w a y)
    (k : Comes y i v b z) : Comes x i v b z :=
  ⟨h.moves.trans k.moves, k.activity, k.wait⟩

/-- The tasks of a wait make a step each, in order, after some that have run. -/
theorem comes_stepAll {before tasks : List Task} (hw : x.waits[i]? = some w)
    (htasks : w.settling.tasks = before ++ tasks) (hbefore : ∀ t ∈ before, t.isReady = false) :
    ∃ y, Comes x i
        { w with settling := { w.settling with
          tasks := before ++ (Settling.stepAll w.scope tasks x.activity).1 } }
        (Settling.stepAll w.scope tasks x.activity).2 y ∧
      ∀ t ∈ before ++ (Settling.stepAll w.scope tasks x.activity).1, t.isReady = false := by
  induction tasks generalizing x w before with
  | nil =>
    refine ⟨x, ⟨.refl, rfl, ?_⟩, ?_⟩
    · rw [Settling.stepAll, ← htasks]
      exact hw
    · rw [Settling.stepAll, List.append_nil]
      exact hbefore
  | cons t more ih =>
    have ht : w.settling.tasks[before.length]? = some t := by
      rw [htasks, List.getElem?_append_right (Nat.le_refl _), Nat.sub_self]
      rfl
    have hi := (List.getElem?_eq_some_iff.mp hw).1
    have hready := Task.isReady_step w.scope t x.activity
    have hmove : Move x (x.stepTask i w before.length t) := by
      refine .task x hw ht fun _ k u hk hu => hbefore u ?_
      rw [htasks, List.getElem?_append_left hk] at hu
      exact List.mem_of_getElem? hu
    have hnext : (x.stepTask i w before.length t).waits[i]? =
        some (w.setTask before.length (t.step w.scope x.activity).1) :=
      List.getElem?_set_self hi
    have hset : (w.setTask before.length (t.step w.scope x.activity).1).settling.tasks =
        (before ++ [(t.step w.scope x.activity).1]) ++ more := by
      rw [Wait.setTask, htasks]
      simp
    have hbefore' : ∀ u ∈ before ++ [(t.step w.scope x.activity).1], u.isReady = false := by
      intro u hu
      rcases List.mem_append.mp hu with hu | hu
      · exact hbefore u hu
      · rw [List.mem_singleton.mp hu]
        exact hready
    obtain ⟨y, hy, hrun⟩ := ih hnext hset hbefore'
    refine ⟨y, ⟨.head hmove hy.moves, hy.activity, ?_⟩, ?_⟩
    · rw [hy.wait, List.append_assoc]
      rfl
    · rw [List.append_assoc] at hrun
      exact hrun

/-- A round of a wait, after which each of its tasks has run. -/
theorem comes_round (hw : x.waits[i]? = some w) :
    ∃ y, Comes x i { w with settling := (w.settling.round w.scope x.activity).1 }
        (w.settling.round w.scope x.activity).2 y ∧
      Wait.allRun { w with settling := (w.settling.round w.scope x.activity).1 } = true := by
  obtain ⟨y, hy, hrun⟩ := comes_stepAll hw (List.nil_append w.settling.tasks).symm fun _ => nofun
  exact ⟨y, hy, Wait.allRun_iff.mpr hrun⟩

theorem comes_advance (hw : x.waits[i]? = some w) (deadline : Option Deadline) (rounds : Nat) :
    ∃ y, Comes x i
        { w with settling := (w.settling.advance w.scope deadline rounds x.activity).1 }
        (w.settling.advance w.scope deadline rounds x.activity).2 y ∧
      Wait.allRun { w with settling := (w.settling.advance w.scope deadline rounds x.activity).1 } =
        true := by
  obtain ⟨y, hy, hrun⟩ := comes_round hw
  rw [Settling.advance]
  dsimp only
  split
  · refine ⟨_, hy.trans ⟨.single (.deadline y hy.wait hrun), hy.activity, ?_⟩,
      Wait.allRun_expire hrun⟩
    exact List.getElem?_set_self (List.getElem?_eq_some_iff.mp hy.wait).1
  · exact ⟨y, hy, hrun⟩

/-- A wait is cancelled each of whose tasks has run. -/
theorem comes_cancel (hw : x.waits[i]? = some w) (hrun : w.allRun = true) :
    ∃ y, Comes x i { w with settling := w.settling.cancel } x.activity y := by
  refine ⟨x.cancel i w, .single (.cancelled x hw), rfl, ?_⟩
  rw [← Wait.cancel_of_allRun hrun]
  exact List.getElem?_set_self (List.getElem?_eq_some_iff.mp hw).1

/-- A wait that goes on for a round at least has run each of its tasks then. -/
theorem comes_run (hw : x.waits[i]? = some w) (deadline : Option Deadline) {fuel : Nat}
    (rounds : Nat) (hrun : fuel = 0 → w.allRun = true) :
    ∃ y, Comes x i
        { w with settling := (w.settling.run w.scope deadline fuel rounds x.activity).1 }
        (w.settling.run w.scope deadline fuel rounds x.activity).2 y ∧
      Wait.allRun { w with
        settling := (w.settling.run w.scope deadline fuel rounds x.activity).1 } = true := by
  induction fuel generalizing x w rounds with
  | zero => exact ⟨x, ⟨.refl, rfl, hw⟩, hrun rfl⟩
  | succ fuel ih =>
    rw [Settling.run]
    cases hresult : w.settling.result? with
    | some settled => exact ⟨x, ⟨.refl, rfl, hw⟩, Wait.allRun_of_result? hresult⟩
    | none =>
      obtain ⟨y, hy, hadvanced⟩ := comes_advance hw deadline rounds
      obtain ⟨z, hz, hlast⟩ := ih hy.wait (rounds + 1) fun _ => hadvanced
      rw [hy.activity] at hz hlast
      exact ⟨z, hy.trans hz, hlast⟩

/-- So has a wait that is cancelled once one of its tasks hangs. -/
theorem comes_runCancelled (hw : x.waits[i]? = some w) {fuel : Nat}
    (hrun : fuel = 0 → w.allRun = true) :
    ∃ y, Comes x i
        { w with settling := (w.settling.runCancelled w.scope fuel x.activity).1 }
        (w.settling.runCancelled w.scope fuel x.activity).2 y ∧
      Wait.allRun { w with
        settling := (w.settling.runCancelled w.scope fuel x.activity).1 } = true := by
  induction fuel generalizing x w with
  | zero => exact ⟨x, ⟨.refl, rfl, hw⟩, hrun rfl⟩
  | succ fuel ih =>
    rw [Settling.runCancelled]
    cases hresult : w.settling.result? with
    | some settled => exact ⟨x, ⟨.refl, rfl, hw⟩, Wait.allRun_of_result? hresult⟩
    | none =>
      obtain ⟨y, hy, hround⟩ := comes_round hw
      dsimp only
      split
      · obtain ⟨z, hz, hnext⟩ := comes_round hy.wait
        obtain ⟨u, hu⟩ := comes_cancel hz.wait hnext
        obtain ⟨v, hv, hlast⟩ := comes_round hu.wait
        rw [hy.activity] at hz hu hv hlast
        rw [hu.activity, hz.activity] at hv hlast
        exact ⟨v, ((hy.trans hz).trans hu).trans hv, hlast⟩
      · obtain ⟨z, hz, hlast⟩ := ih hy.wait fun _ => hround
        rw [hy.activity] at hz hlast
        exact ⟨z, hy.trans hz, hlast⟩

theorem waits_begin (x : Desk) (r : Nat) (scope : Option Nat) :
    (x.begin r scope).waits[x.waits.length]? =
      some { registry := r, scope, settling := .ofPending (x.activity.takePending r).1 } := by
  rw [begin, List.getElem?_append_right (Nat.le_refl _), Nat.sub_self]
  rfl

/-- A desk to which a wait for the calls of a registry has come with each of its tasks run, and
the wait as it is there. -/
structure Waits (x : Desk) (r : Nat) (scope : Option Nat) (z : Desk) (w : Wait) : Prop where
  moves : ReflTransGen Move (x.begin r scope) z
  wait : z.waits[x.waits.length]? = some w
  unhurried : w.hurried = false
  allRun : w.allRun = true

/-- To wait for the calls of a registry is such a life. Where there are any and the timeout is one,
the life begins a wait and runs each of its tasks. -/
theorem moves_await (x : Desk) (r : Nat) (scope : Option Nat) (timeout : Value) :
    ∃ y, ReflTransGen Move x y ∧ y.activity = (View.await x.activity r scope timeout).2 ∧
      ∀ deadline, (x.activity.registry r).pending ≠ [] → View.deadlineOf timeout = .ok deadline →
        ∃ w, x.Waits r scope y w := by
  rw [View.await]
  split
  · next hempty => exact ⟨x, .refl, rfl, fun _ h => absurd (List.isEmpty_iff.mp hempty) h⟩
  cases View.deadlineOf timeout with
  | error f => exact ⟨x.begin r scope, .single (.begun x r scope), rfl, fun _ _ h => by cases h⟩
  | ok deadline =>
    obtain ⟨y, hy, hrun⟩ := comes_run (x.waits_begin r scope) deadline 0 fun h =>
      absurd h (x.activity.takePending r).2.patience_ne_zero
    exact ⟨y, .head (.begun x r scope) hy.moves, hy.activity, fun _ _ _ =>
      ⟨_, hy.moves, hy.wait, rfl, hrun⟩⟩

theorem moves_awaitCancelled (x : Desk) (r : Nat) (scope : Option Nat) :
    ∃ y w, y.activity = (View.awaitCancelled x.activity r scope).2 ∧ x.Waits r scope y w := by
  obtain ⟨y, hy, hrun⟩ := comes_runCancelled (x.waits_begin r scope) fun h =>
    absurd h (x.activity.takePending r).2.patience_ne_zero
  exact ⟨y, _, hy.activity, hy.moves, hy.wait, rfl, hrun⟩

/-- At any desk that comes after a wait was begun, it has started calls that were pending then, and
all of them once each of its tasks has run, unless it was cancelled before. -/
theorem Kept.startedIn (hid : ∀ r, IsRegistryId (ids r)) (hinj : Function.Injective ids)
    (h : Kept ids x) {r : Nat} {scope : Option Nat} {z : Desk}
    (hz : ReflTransGen Move (x.begin r scope) z) (hw : z.waits[x.waits.length]? = some w) :
    w.startedIn z.started <+: (x.activity.registry r).pending ∧
      (w.hurried = false → w.allRun = true →
        w.startedIn z.started = (x.activity.registry r).pending) := by
  have hbegun := h.begin hid hinj r scope
  obtain ⟨v, hv, hcalls⟩ := (hbegun.later_moves hid hinj hz).waits _ _ (x.waits_begin r scope)
  obtain rfl : v = w := Option.some.inj (hv.symm.trans hw)
  obtain ⟨k, hstarted, hk⟩ := (hbegun.moves hid hinj hz).begun _ v hv
  have hpending : (x.activity.registry r).pending = v.calls := by
    rw [hcalls, Wait.calls_ofPending]
    rfl
  rw [hpending, hstarted]
  exact ⟨List.take_prefix k v.calls, hk.take_eq⟩

theorem Waits.startedIn (hid : ∀ r, IsRegistryId (ids r)) (hinj : Function.Injective ids)
    (h : Kept ids x) {r : Nat} {scope : Option Nat} {z : Desk} (hwaits : x.Waits r scope z w) :
    w.startedIn z.started = (x.activity.registry r).pending :=
  (h.startedIn hid hinj hwaits.moves hwaits.wait).2 hwaits.unhurried hwaits.allRun

end Desk

/-- Registries with different hexadecimal ids, from the first one on to a desk `x` and from there to
any later desk `y`. All placeholders ever issued are different, and each is matched in full where
placeholders are looked for. A registry has pending what was put off and not taken yet, in order, and
it tells for ever under which name a placeholder was issued. No call is started twice, nor one that
no wait has taken; what was started shows among the starts of helpers. A wait starts calls that were
pending when it began, from the first one on and in order, and all of them once each of its tasks
has run, unless it was cancelled before. The waits of the program are made of such moves, and one
that gets to its tasks begins a wait, runs each of them, and so starts exactly what was pending. -/
theorem registries_keep_books {a : Activity} (hfresh : a.registries = []) (hclosed : a.Closed)
    (hid : ∀ r, IsRegistryId (a.ids r)) (hinj : Function.Injective a.ids) {x y : Desk}
    (hx : ReflTransGen Desk.Move ⟨a, [], []⟩ x) (hy : ReflTransGen Desk.Move x y) :
    (x.activity.issuedTokens.Nodup ∧ ∀ token ∈ x.activity.issuedTokens,
      ∃ inside, pieces token.toList = [.placeholder inside]) ∧
    (∀ r, (x.activity.registry r).names =
        (takenOf x.records r ++ (x.activity.registry r).pending).map (fun c => (c.token, c.name)) ∧
      (x.activity.registry r).names <+: (y.activity.registry r).names ∧
      ∀ token name, (token, name) ∈ (x.activity.registry r).names →
        (y.activity.registry r).helperName token = name) ∧
    ((x.started.map (·.token)).Nodup ∧ (∀ c ∈ x.started, ∃ w ∈ x.waits, c ∈ w.calls) ∧
      (x.started.map (·.helper)).Sublist x.activity.starts) ∧
    (∀ r scope z, ReflTransGen Desk.Move (x.begin r scope) z → ∃ w, z.waits[x.waits.length]? = some w ∧
      w.startedIn z.started <+: (x.activity.registry r).pending ∧
      (w.hurried = false → w.allRun = true →
        w.startedIn z.started = (x.activity.registry r).pending)) ∧
    ∀ r scope,
      (∀ timeout, ∃ z, ReflTransGen Desk.Move x z ∧
        z.activity = (View.await x.activity r scope timeout).2 ∧
        ∀ deadline, (x.activity.registry r).pending ≠ [] → View.deadlineOf timeout = .ok deadline →
          ∃ w, x.Waits r scope z w ∧ w.startedIn z.started = (x.activity.registry r).pending) ∧
      ∃ z w, ReflTransGen Desk.Move x z ∧
        z.activity = (View.awaitCancelled x.activity r scope).2 ∧ x.Waits r scope z w ∧
        w.startedIn z.started = (x.activity.registry r).pending := by
  have hkept := (Desk.kept_fresh hfresh hclosed).moves hid hinj hx
  have hid' : ∀ r, IsRegistryId (x.activity.ids r) := hkept.ids.symm ▸ hid
  have hinj' : Function.Injective x.activity.ids := hkept.ids.symm ▸ hinj
  refine ⟨⟨hkept.books.nodup_issuedTokens hid' hinj', fun token => hkept.books.pieces_issuedTokens hid'⟩,
    ?_, ⟨hkept.once, hkept.origin, hkept.starts⟩, ?_, fun r scope => ⟨fun timeout => ?_, ?_⟩⟩
  · intro r
    have hlater := (hkept.later_moves hid hinj hy).names r
    have hlast := hkept.moves hid hinj hy
    refine ⟨(hkept.books.kept r).names, hlater, fun token name hmem => ?_⟩
    exact hlast.books.helperName (hlast.ids.symm ▸ hid) (hlater.subset hmem)
  · intro r scope z hz
    obtain ⟨w, hw, -⟩ := ((hkept.begin hid hinj r scope).later_moves hid hinj hz).waits _ _
      (x.waits_begin r scope)
    exact ⟨w, hw, hkept.startedIn hid hinj hz hw⟩
  · obtain ⟨z, hz, hactivity, hruns⟩ := x.moves_await r scope timeout
    refine ⟨z, hz, hactivity, fun deadline hpending hdeadline => ?_⟩
    obtain ⟨w, hwaits⟩ := hruns deadline hpending hdeadline
    exact ⟨w, hwaits, hwaits.startedIn hid hinj hkept⟩
  · obtain ⟨z, w, hactivity, hwaits⟩ := x.moves_awaitCancelled r scope
    exact ⟨z, w, .head (.begun x r scope) hwaits.moves, hactivity, hwaits,
      hwaits.startedIn hid hinj hkept⟩

/-- A helper whose first call puts off another one. -/
def asksAgain : Helper :=
  { name := "user", doc := none, isTask := true, pauses := 0,
    body := fun c => if c.earlier = 0 then .defer 0 [] [] .markup else .value (.str "Ann") }

/-- No registries yet, and one helper. -/
def idleHelper : Activity :=
  { ids := fun r => String.ofList (List.replicate (r + 1) 'a'), helpers := [asksAgain] }

/-- The wait for a call during which the helper puts off another one. -/
def askedOnce : Desk :=
  let x := Desk.begin ⟨(idleHelper.openRegistry.2.register 0 "" 0 [] []).2, [], []⟩ 0 (some 0)
  x.stepTask 0 ⟨0, some 0, .ofPending [⟨placeholder "a" 0, "user", 0, [], []⟩], false⟩ 0
    { call := ⟨placeholder "a" 0, "user", 0, [], []⟩ }

theorem idleHelper_closed : idleHelper.Closed := by
  intro h hh call i args kwargs wrap hdefer
  rw [List.mem_singleton.mp hh] at hdefer
  have hbody : (if call.earlier = 0 then Reply.defer 0 [] [] .markup else .value (.str "Ann")) =
      .defer i args kwargs wrap := hdefer
  split at hbody
  · cases hbody
    exact Nat.zero_lt_one
  · cases hbody

theorem idleHelper_ids (r : Nat) : IsRegistryId (idleHelper.ids r) := by
  have hlist : (idleHelper.ids r).toList = List.replicate (r + 1) 'a' := String.toList_ofList
  refine ⟨?_, ?_⟩ <;> rw [hlist]
  · exact List.cons_ne_nil _ _
  · intro c hc
    rw [List.eq_of_mem_replicate hc]
    decide

theorem idleHelper_ids_injective : Function.Injective idleHelper.ids := by
  intro r q h
  have hlength := congrArg (fun id => id.toList.length) h
  simpa [idleHelper] using hlength

theorem moves_askedOnce : ReflTransGen Desk.Move ⟨idleHelper, [], []⟩ askedOnce := by
  refine .head (.opened _) ?_
  refine .head (.registered _ 0 "" Nat.zero_lt_one [] []) ?_
  refine .head (.begun _ 0 (some 0)) ?_
  refine .single (.task _ rfl rfl ?_)
  intro _ k u hk
  exact absurd hk (Nat.not_lt_zero k)

/-- The call that was put off during the wait is pending, has a placeholder of its own, and is told
under the name of the helper; the one before it was started. -/
theorem registries_keep_books_of_nested_call :
    askedOnce.started.map (·.token) = [placeholder "a" 0] ∧
      (askedOnce.activity.registry 0).tokens = [placeholder "a" 1] ∧
      askedOnce.activity.issuedTokens.Nodup ∧
      (askedOnce.activity.registry 0).helperName (placeholder "a" 1) = "user" := by
  obtain ⟨⟨hnodup, -⟩, hbooks, -⟩ := registries_keep_books rfl idleHelper_closed idleHelper_ids
    idleHelper_ids_injective moves_askedOnce .refl
  refine ⟨by decide +kernel, by decide +kernel, hnodup, (hbooks 0).2.2 _ _ ?_⟩
  decide +kernel

end DeferredViews.Deferred
