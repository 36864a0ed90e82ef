import DeferredViews.Proofs.Early
import DeferredViews.Proofs.Turns

/-!
# How far a render has come among others

After so many turns a render has come as far as the render alone: it looks for the same templates,
waits with the page and the calls of its plan, or has ended as the plan says. A turn of its own takes
it on, and no turn of another render, with a registry of its own, sets it back.
-/
namespace DeferredViews.View

open Deferred Files

/-- Go on with a render until it waits for helpers or ends. -/
def draft (r : Request) : Nat → Stage × Site → Stage
  | n + 1, (.opening, s) => draft r n (Stage.step r .opening s)
  | n + 1, (.readingLayout q name path, s) => draft r n (Stage.step r (.readingLayout q name path) s)
  | n + 1, (.readingPage q layout, s) => draft r n (Stage.step r (.readingPage q layout) s)
  | _, (stage, _) => stage

theorem draft_ended (r : Request) (n : Nat) (x : Except Stop String) (s : Site) :
    draft r n (.ended x, s) = .ended x := by
  cases n <;> rfl

theorem draft_settling (r : Request) (n : Nat) (q : Nat) (page : String) (rounds : Nat)
    (w : Settling) (s : Site) :
    draft r n (.settling q page rounds w, s) = .settling q page rounds w := by
  cases n <;> rfl

/-- Whatever the id of its registry, the render follows the plan: its templates print placeholders
whole, and look at them in no other way. -/
def PrintsWhole (r : Request) (s : Site) (plan : Plan) : Prop :=
  ∀ id, IsRegistryId id →
    draft r 3 (.opening, s.withId id) = plan.stage id s.activity.registries.length

theorem Stage.held?_ended (x : Except Stop String) {n q : Nat}
    (h : (Stage.ended x).held? = some n) : n = q := by
  cases h

/-- How far a render has come with so many turns of its own. -/
inductive Progress (r : Request) (s : Site) (plan : Plan) (t : Site) : Nat → Stage → Prop
  | opening (hl : Finds r s (t.optionsAt r.options)) : Progress r s plan t 0 .opening
  | reading {c n q : Nat} {stage stage' : Stage} {a : Site} (hearly : stage.IsEarly)
    (hq : s.activity.registries.length ≤ q) (hroom : q < t.activity.registries.length)
    (hl : Finds r s (t.optionsAt r.options))
    (hmatched : Matched r s t q s.activity.registries.length (t.optionsAt r.options) (stage, t)
      (stage', a))
    (hdraft : draft r n (stage', a) = plan.stage (s.activity.ids q) s.activity.registries.length)
    (hn : c + n ≤ 3) : Progress r s plan t c stage
  | settling {c q rounds : Nat} {row : Row} {calls : List Pending} {w : Settling}
    (hplan : plan = .page row calls) (hq : s.activity.registries.length ≤ q)
    (hroom : q < t.activity.registries.length) (hne : calls ≠ [])
    (hfollows : w.Follows t.activity) (hending : w.ending = none)
    (hcalls : w.tasks.map (·.call) = renumber (s.activity.ids q) calls)
    (hnames : (t.activity.registry q).names =
      (renumber (s.activity.ids q) calls).map fun c => (c.token, c.name))
    (hwithin : w.Within s.activity.helpers (slowest s.activity.helpers + 4 - c))
    (hopen : (∀ d ∈ calls, d.given s.activity.helpers ≠ none) →
      c ≤ slowest s.activity.helpers + 4) :
    Progress r s plan t c (.settling q (row.text (s.activity.ids q)) rounds w)
  | ended {c : Nat} {x : Except Stop String} (hx : plan.result? s.activity.helpers = some x) :
    Progress r s plan t c (.ended x)

section Interference

variable {r r' : Request} {s t t' a : Site} {q q' p : Nat} {l m : Locals}

theorem Finds.interfere (h : Finds r s (t.optionsAt r.options)) (k : Spares r' s q' t t')
    (hshared : r'.options = r.options → IgnoresBody r s) : Finds r s (t'.optionsAt r.options) := by
  by_cases hoptions : r'.options = r.options
  · have hown := k.own
    rw [hoptions] at hown
    exact h.bodied_of_ignores (hshared hoptions) hown
  · rw [k.options r.options (Ne.symm hoptions)]
    exact h

theorem Tandem.interfere (h : Tandem r s t q p l m t a) (k : Spares r' s q' t t')
    (hroom : q < t.activity.registries.length) (hq : q ≠ q') :
    Tandem r s t' q p (t'.optionsAt r.options) m t' a := by
  have hregistry := k.others q hroom hq
  refine
    { kin := ⟨k.kin, h.kin.2⟩
      activity := ⟨⟨rfl, ?_⟩, rfl, rfl, fun _ _ => rfl, ?_, ?_, ?_⟩
      options := ⟨rfl, h.options.2⟩
      others := fun _ _ => rfl }
  · rw [h.activity.helpers.2, k.helpers]
  · rw [hregistry, h.activity.record]
  · exact ⟨Nat.lt_of_lt_of_le hroom k.length, h.activity.room.2⟩
  · rw [hregistry, h.activity.names]

/-- Turns of other renders set no render back. -/
theorem Progress.interfere {plan : Plan} {c : Nat} {stage : Stage} (h : Progress r s plan t c stage)
    (k : Spares r' s q' t t') (hapart : stage.held? ≠ some q')
    (hshared : r'.options = r.options → IgnoresBody r s) : Progress r s plan t' c stage := by
  cases h with
  | opening hl => exact .opening (hl.interfere k hshared)
  | @reading _ n q _ stage' a hearly hq hroom hl hmatched hdraft hn =>
    have hroom' := Nat.lt_of_lt_of_le hroom k.length
    refine .reading hearly hq hroom' (hl.interfere k hshared) ?_ hdraft hn
    cases hmatched with
    | readingLayout h hpath =>
      have hne : q ≠ q' := fun heq => hapart (congrArg some heq)
      exact .readingLayout (h.interfere k hroom hne) hpath
    | readingPage h =>
      have hne : q ≠ q' := fun heq => hapart (congrArg some heq)
      exact .readingPage (h.interfere k hroom hne)
    | ended _ => exact hearly.elim
    | settling _ _ _ => exact hearly.elim
  | @settling _ q _ row calls w hplan hq hroom hne hfollows hending hcalls hnames hwithin hopen =>
    have hapart' : q ≠ q' := fun heq => hapart (congrArg some heq)
    refine .settling hplan hq (Nat.lt_of_lt_of_le hroom k.length) hne ?_ hending hcalls ?_ hwithin
      hopen
    · intro task htask
      rw [k.helpers]
      exact (hfollows task htask).elsewhere (.of_eq k.helpers)
    · rw [k.others q hroom hapart', hnames]
  | ended hx => exact .ended hx

end Interference

/-- A render whose options and plan leave nothing to chance: it keeps no templates, does not limit
the wait for helpers, and prints placeholders whole. -/
structure Predictable (r : Request) (s : Site) (plan : Plan) : Prop where
  options : r.options < s.options.length
  uncached : ((s.optionsAt r.options).get? "cache").any Value.truthy = false
  timeout : (s.engine r.engine).timeout = .null
  whole : PrintsWhole r s plan
  steady : plan.Steady s.activity.helpers
  unguessed : ∀ q, s.activity.registries.length ≤ q → plan.Unguessed (s.activity.ids q)

/-- A site whose helpers answer by their arguments, and whose next registries get ids of their own. -/
structure Site.Orderly (s : Site) : Prop where
  repeats : Repeats s.activity.helpers
  ids : ∀ q, s.activity.registries.length ≤ q → IsRegistryId (s.activity.ids q)
  distinct : ∀ q p, s.activity.registries.length ≤ q → s.activity.registries.length ≤ p →
    s.activity.ids q = s.activity.ids p → q = p

/-- What all renders leave as it was on a site. -/
structure Site.Shared (s t : Site) : Prop where
  kin : s.Kin t
  helpers : t.activity.helpers = s.activity.helpers
  ids : t.activity.ids = s.activity.ids
  length : s.activity.registries.length ≤ t.activity.registries.length

section Turns

variable {r : Request} {s b t : Site} {q : Nat} {l : Locals} {plan : Plan}

theorem Site.Kin.refl (s : Site) : s.Kin s := ⟨rfl, fun d => ⟨.refl (s.engine d), rfl⟩, rfl, rfl⟩

theorem Site.Shared.spares (h : s.Shared t) (k : Spares r s q t b) : s.Shared b where
  kin := k.kin
  helpers := k.helpers.trans h.helpers
  ids := k.ids.trans h.ids
  length := Nat.le_trans h.length k.length

/-- A turn that changes no registry. -/
theorem Site.Shared.spares_of_eq (h : s.Shared t) (r : Request) (q : Nat) {activity : Activity}
    (hhelpers : activity.helpers = t.activity.helpers) (hids : activity.ids = t.activity.ids)
    (hregistries : activity.registries = t.activity.registries) (log : List Log.Record) :
    Spares r s q t { t with activity, log } where
  kin := { h.kin with }
  helpers := hhelpers
  ids := hids
  length := Nat.le_of_eq (congrArg List.length hregistries.symm)
  others n _ _ := Activity.registry_congr hregistries n
  options _ _ := rfl
  own := .inl rfl

/-- A registry that a turn opens is one that nobody had. -/
theorem Spares.ofOpened (h : Spares r s q t.opened b) : Spares r s q t b := by
  have hlength := t.length_opened
  have hmore := h.length
  refine { h with length := by omega, others := ?_ }
  intro n hn hne
  rw [h.others n (by omega) hne]
  simp [Site.opened, Activity.openRegistry, Activity.registry, List.getElem?_append_left hn]

theorem Plan.stage_ne {id : String} {p : Nat} {stage : Stage} (h : stage.IsEarly) :
    stage ≠ plan.stage id p := by
  rintro rfl
  cases plan <;> exact h.elim

/-- The tasks of the calls of a plan when the wait for them begins. -/
theorem within_ofPending (helpers : List Helper) (calls : List Pending) {n : Nat}
    (hn : slowest helpers + 1 ≤ n) : (Settling.ofPending calls).Within helpers n := by
  intro task htask helper hhelper
  obtain ⟨c, -, rfl⟩ := List.mem_map.mp htask
  have hrounds := rounds_le_slowest (List.mem_of_getElem? hhelper)
  show helper.rounds ≤ n
  omega

/-- Where a turn leads that matches one of the render alone. -/
theorem Progress.ofMatched (h : Predictable r s plan) (hq : s.activity.registries.length ≤ q)
    (hl : Finds r s l) {x y : Stage × Site}
    (hm : Matched r s b q s.activity.registries.length l x y)
    (hhelpers : x.2.activity.helpers = s.activity.helpers)
    (hroom : q < x.2.activity.registries.length) {c n : Nat}
    (hdraft : draft r n y = plan.stage (s.activity.ids q) s.activity.registries.length)
    (hn : c + n ≤ 3) : Progress r s plan x.2 c x.1 := by
  cases hm with
  | ended _ =>
    rw [draft_ended] at hdraft
    cases plan with
    | page row calls => cases hdraft
    | ended x =>
      cases hdraft
      exact .ended rfl
  | readingLayout hm hpath =>
    have hoptions := hm.options.1
    subst hoptions
    exact .reading trivial hq hroom hl (.readingLayout hm.rebase hpath) hdraft hn
  | readingPage hm =>
    have hoptions := hm.options.1
    subst hoptions
    exact .reading trivial hq hroom hl (.readingPage hm.rebase) hdraft hn
  | @settling rendered calls t a _ hcalls hnames =>
    rw [draft_settling] at hdraft
    cases hplan : plan with
    | ended x =>
      rw [hplan] at hdraft
      cases hdraft
    | page row planned =>
      rw [hplan, Plan.stage] at hdraft
      simp only [Stage.settling.injEq, true_and] at hdraft
      obtain ⟨rfl, hpending⟩ := hdraft
      have hrenumber : calls = renumber (s.activity.ids q) planned := by
        have htasks := congrArg (fun w => w.tasks.map (·.call)) hpending
        simpa only [Settling.call_ofPending] using htasks
      have hsteady := h.steady
      rw [hplan] at hsteady
      subst hrenumber
      refine .settling rfl hq hroom ?_ ?_ rfl ?_ hnames ?_ ?_
      · rintro rfl
        exact hcalls rfl
      · refine Settling.follows_ofPending fun d hd => ?_
        obtain ⟨e, he, m, rfl⟩ := mem_renumber hd
        rw [hhelpers]
        exact hsteady e he
      · exact Settling.call_ofPending _
      · exact within_ofPending _ _ (by omega)
      · intro _
        omega

theorem Matched.held? {p : Nat} {x y : Stage × Site} (h : Matched r s b q p l x y) {n : Nat}
    (hn : x.1.held? = some n) : n = q := by
  cases h with
  | ended _ => cases hn
  | readingLayout _ _ => exact (Option.some.inj hn).symm
  | readingPage _ => exact (Option.some.inj hn).symm
  | settling _ _ _ => exact (Option.some.inj hn).symm

/-- A turn that goes on as the render alone takes it on as far. -/
theorem Progress.afterMatched (h : Predictable r s plan) (ht : s.Shared t)
    (hq : s.activity.registries.length ≤ q) (hroom : q < t.activity.registries.length)
    (hl : Finds r s (t.optionsAt r.options)) {x y : Stage × Site}
    (hm : Matched r s t q s.activity.registries.length (t.optionsAt r.options) x y) {c n : Nat}
    (hdraft : draft r n y = plan.stage (s.activity.ids q) s.activity.registries.length)
    (hn : c + n ≤ 3) :
    Spares r s q t x.2 ∧ Progress r s plan x.2 c x.1 ∧ ∀ p, x.1.held? = some p → p = q := by
  have hspares := hm.spares (.inl rfl)
  have hnext := Progress.ofMatched h hq hl hm (hspares.helpers.trans ht.helpers)
    (Nat.lt_of_lt_of_le hroom hspares.length) hdraft hn
  exact ⟨hspares, hnext, fun p hp => hm.held? hp⟩

/-- No wait for helpers is limited. -/
theorem Predictable.deadline (h : Predictable r s plan) (ht : s.Shared t) :
    deadlineOf (t.engine r.engine).timeout = .ok none := by
  rw [(ht.kin.engines r.engine).1.timeout, h.timeout]
  rfl

section Tasks

variable {id : String} {calls : List Pending} {w : Settling}
  (hcalls : w.tasks.map (·.call) = renumber id calls)

include hcalls

/-- Every call of a plan has a task, which comes to what the call comes to. -/
theorem exists_task (helpers : List Helper) {d : Pending} (hd : d ∈ calls) :
    ∃ task ∈ w.tasks, task.call.given helpers = d.given helpers := by
  have hmem : d.given helpers ∈ (renumber id calls).map (·.given helpers) := by
    rw [map_renumber (fun _ _ => rfl)]
    exact List.mem_map.mpr ⟨d, hd, rfl⟩
  rw [← hcalls, List.map_map] at hmem
  exact List.mem_map.mp hmem

theorem exists_call (helpers : List Helper) {task : Task} (htask : task ∈ w.tasks) :
    ∃ d ∈ calls, task.call.given helpers = d.given helpers := by
  have hmem : task.call ∈ renumber id calls := hcalls ▸ List.mem_map.mpr ⟨task, htask, rfl⟩
  obtain ⟨d, hd, n, heq⟩ := mem_renumber hmem
  exact ⟨d, hd, heq ▸ rfl⟩

/-- Once all tasks are done, all calls of the plan have answers. -/
theorem given_of_allFinished {a : Activity} (hfollows : w.Follows a)
    (hfinished : w.allFinished = true) : ∀ d ∈ calls, d.given a.helpers ≠ none := by
  intro d hd hnone
  obtain ⟨task, htask, hsame⟩ := exists_task hcalls a.helpers hd
  have hunfinished := Settling.not_allFinished hfollows htask (hsame.trans hnone)
  rw [hfinished] at hunfinished
  cases hunfinished

/-- Tasks that need no more rounds are all done, if all calls of the plan have answers. -/
theorem allFinished_of_given {a : Activity} (hfollows : w.Follows a)
    (hanswer : ∀ d ∈ calls, d.given a.helpers ≠ none) (hwithin : w.Within a.helpers 0) :
    w.allFinished = true := by
  refine Settling.allFinished_of_within hfollows (fun task htask => ?_) hwithin
  obtain ⟨d, hd, hsame⟩ := exists_call hcalls a.helpers htask
  rw [hsame]
  exact hanswer d hd

end Tasks

/-- One more round of the helpers that a render waits for. -/
theorem Progress.settle (h : Predictable r s plan) (hs : s.Orderly) (ht : s.Shared t)
    {c rounds : Nat} {page : String} {w : Settling}
    (hprogress : Progress r s plan t c (.settling q page rounds w)) :
    Spares r s q t (Stage.step r (.settling q page rounds w) t).2 ∧
      Progress r s plan (Stage.step r (.settling q page rounds w) t).2 (c + 1)
        (Stage.step r (.settling q page rounds w) t).1 ∧
      ∀ n, (Stage.step r (.settling q page rounds w) t).1.held? = some n → n = q := by
  cases hprogress with
  | reading hearly => exact hearly.elim
  | @settling _ _ _ row calls _ hplan hq hroom hne hfollows hending hcalls hnames hwithin hopen =>
    have hrow : row.Unguessed (s.activity.ids q) := by
      have hunguessed := h.unguessed q hq
      rw [hplan] at hunguessed
      exact hunguessed
    have hdeadline := h.deadline ht
    have hadvance : w.advance (some q) none rounds t.activity = w.round (some q) t.activity := rfl
    obtain ⟨hfollows', hcalls', hhelpers, hregistries, hids, hcloser⟩ :=
      Settling.round_spec (some q) hfollows
    rw [hcalls] at hcalls'
    have hnames' := (congrArg Registry.names (Activity.registry_congr hregistries q)).trans hnames
    have hsame := hhelpers.trans ht.helpers
    cases hfinished : (w.round (some q) t.activity).1.allFinished with
    | true =>
      obtain ⟨hend, log, hsite⟩ :=
        step_settling_finished r (row.text (s.activity.ids q)) hdeadline hadvance hending hfinished
      have hanswer := given_of_allFinished hcalls' hfollows' hfinished
      rw [hsame] at hanswer
      have hresult := endWith_text (hs.ids q hq) hrow hne hanswer r
        (s := { t with activity := (w.round (some q) t.activity).2 }) hnames'
      have houtcomes := Settling.outcomes_of_allFinished hfollows' hfinished
      rw [hcalls', hsame] at houtcomes
      rw [hend, hsite, houtcomes]
      refine ⟨ht.spares_of_eq r q hhelpers hids hregistries log, ?_, fun _ => Stage.held?_ended _⟩
      rw [hplan]
      exact .ended hresult
    | false =>
      have hspares := ht.spares_of_eq r q hhelpers hids hregistries t.log
      have hroom' := Nat.lt_of_lt_of_le hroom hspares.length
      rw [step_settling_open r (row.text (s.activity.ids q)) hdeadline hadvance hfinished]
      refine ⟨hspares, ?_, fun n hn => (Option.some.inj hn).symm⟩
      have hwithin' : (w.round (some q) t.activity).1.Within s.activity.helpers
          (slowest s.activity.helpers + 4 - (c + 1)) := by
        rw [ht.helpers] at hcloser
        refine hcloser _ fun task htask helper hhelper => ?_
        have hleft := hwithin task htask helper hhelper
        omega
      refine .settling hplan hq hroom' hne hfollows' hending hcalls' hnames' hwithin' ?_
      -- If every call answers, the tasks need at least one more round.
      intro hanswer
      refine Decidable.byContradiction fun hlate => ?_
      have hzero : slowest s.activity.helpers + 4 - (c + 1) = 0 := by omega
      rw [hzero, ← hsame] at hwithin'
      rw [← hsame] at hanswer
      have hall := allFinished_of_given hcalls' hfollows' hanswer hwithin'
      rw [hfinished] at hall
      cases hall

/-- The first turn of a render: it opens a registry, or ends before it does. -/
theorem Progress.open (h : Predictable r s plan) (hs : s.Orderly) (ht : s.Shared t)
    (hl : Finds r s (t.optionsAt r.options)) :
    Spares r s t.activity.registries.length t (Stage.step r .opening t).2 ∧
      Progress r s plan (Stage.step r .opening t).2 1 (Stage.step r .opening t).1 ∧
      ∀ n, (Stage.step r .opening t).1.held? = some n → n = t.activity.registries.length := by
  have hwhole := h.whole (t.activity.ids t.activity.registries.length) (ht.ids ▸ hs.ids _ ht.length)
  have hturn := matched_opening ht.kin ht.helpers hs.repeats h.options hl h.timeout h.uncached
  rw [draft] at hwhole
  rcases hturn with hmatched | ⟨e, hstop, hstop'⟩
  · have hspares := hmatched.spares (.inl rfl)
    have hlength := t.length_opened
    have hmore := hspares.length
    refine ⟨hspares.ofOpened, ?_, fun n hn => hmatched.held? hn⟩
    rw [ht.ids] at hwhole hmatched
    exact .ofMatched h ht.length hl hmatched (hspares.helpers.trans ht.helpers) (by omega) hwhole
      (by omega)
  · rw [hstop]
    refine ⟨ht.spares_of_eq r _ rfl rfl rfl t.log, ?_, fun _ => Stage.held?_ended _⟩
    generalize Stage.step r .opening (s.withId _) = y at hwhole hstop'
    obtain ⟨stage', a⟩ := y
    obtain rfl : stage' = .ended (.error e) := hstop'
    rw [draft_ended] at hwhole
    cases plan with
    | page row calls => cases hwhole
    | ended x =>
      cases hwhole
      exact .ended rfl

/-- A turn of the render takes it on. -/
theorem Progress.turn (h : Predictable r s plan) (hs : s.Orderly) (ht : s.Shared t) {c : Nat}
    {stage : Stage} (hprogress : Progress r s plan t c stage) :
    Spares r s (stage.held?.getD t.activity.registries.length) t (stage.step r t).2 ∧
      Progress r s plan (stage.step r t).2 (c + 1) (stage.step r t).1 ∧
      ∀ n, (stage.step r t).1.held? = some n →
        n = stage.held?.getD t.activity.registries.length := by
  have hrepeats : Repeats t.activity.helpers := ht.helpers ▸ hs.repeats
  cases hprogress with
  | opening hl => exact Progress.open h hs ht hl
  | settling hplan hq hroom hne hfollows hending hcalls hnames hwithin hopen =>
    exact Progress.settle h hs ht
      (.settling hplan hq hroom hne hfollows hending hcalls hnames hwithin hopen)
  | ended hx =>
    exact ⟨ht.spares_of_eq r _ rfl rfl rfl t.log, .ended hx, fun _ => Stage.held?_ended _⟩
  | @reading _ n _ _ _ _ hearly hq hroom hl hmatched hdraft hn =>
    -- A plan is no stage that still reads, so there is a turn left to take.
    cases hmatched with
    | readingLayout htandem hpath =>
      have hnext := matched_readingLayout hrepeats h.options hl rfl h.timeout h.uncached htandem
        hpath
      cases n with
      | zero => exact absurd hdraft (Plan.stage_ne trivial)
      | succ n => exact Progress.afterMatched h ht hq hroom hl hnext hdraft (by omega)
    | @readingPage layout _ _ htandem =>
      have hnext := matched_readingPage hrepeats h.options hl rfl h.timeout h.uncached htandem
        layout
      cases n with
      | zero => exact absurd hdraft (Plan.stage_ne trivial)
      | succ n => exact Progress.afterMatched h ht hq hroom hl hnext hdraft (by omega)
    | ended _ => exact hearly.elim
    | settling _ _ _ => exact hearly.elim

end Turns

/-- One of the helpers' tasks that a render waits for makes a step by itself. -/
def Stage.stepTask (k : Nat) (stage : Stage) (s : Site) : Stage × Site :=
  match stage with
  | .settling q page rounds w =>
    match w.tasks[k]? with
    | some task =>
      let (task, activity) := task.step (some q) s.activity
      (.settling q page rounds { w with tasks := w.tasks.set k task }, { s with activity })
    | none => (stage, s)
  | _ => (stage, s)

/-- The step of a task sets its render neither back nor on. -/
theorem Progress.stepTask {r : Request} {s t : Site} {plan : Plan} (ht : s.Shared t) {c : Nat}
    {stage : Stage} (hprogress : Progress r s plan t c stage) (k : Nat) :
    Spares r s (stage.held?.getD t.activity.registries.length) t (stage.stepTask k t).2 ∧
      Progress r s plan (stage.stepTask k t).2 c (stage.stepTask k t).1 ∧
      (stage.stepTask k t).1.held? = stage.held? := by
  have hnothing := ht.spares_of_eq r (stage.held?.getD t.activity.registries.length) rfl rfl rfl
    t.log
  cases hprogress with
  | @settling _ q rounds row calls w hplan hq hroom hne hfollows hending hcalls hnames hwithin hopen =>
    rw [Stage.stepTask]
    cases htask : w.tasks[k]? with
    | none =>
      exact ⟨hnothing, .settling hplan hq hroom hne hfollows hending hcalls hnames hwithin hopen, rfl⟩
    | some task =>
      have hmem := List.mem_of_getElem? htask
      obtain ⟨hstep, hregistries, hids, hleft⟩ :=
        Settling.follows_step (hfollows task hmem) (some q)
      have hhelpers := Task.helpers_step (some q) task t.activity
      have hcall := Task.call_step (some q) task t.activity
      dsimp only
      have hspares := ht.spares_of_eq r q hhelpers hids hregistries t.log
      refine ⟨hspares, ?_, rfl⟩
      refine .settling hplan hq (Nat.lt_of_lt_of_le hroom hspares.length) hne ?_ hending ?_ ?_ ?_
        hopen
      · intro u hu
        rcases List.mem_or_eq_of_mem_set hu with hu | rfl
        · rw [hhelpers]
          exact (hfollows u hu).elsewhere (.of_eq hhelpers)
        · exact hstep
      · exact (map_set_of_eq htask hcall).trans hcalls
      · exact (congrArg Registry.names (Activity.registry_congr hregistries q)).trans hnames
      · intro u hu helper hhelper
        rcases List.mem_or_eq_of_mem_set hu with hu | rfl
        · exact hwithin u hu helper hhelper
        · rw [hcall] at hhelper
          have hbefore := hwithin task hmem helper hhelper
          have hafter := hleft helper (ht.helpers ▸ hhelper)
          omega
  | opening hl => exact ⟨hnothing, .opening hl, rfl⟩
  | ended hx => exact ⟨hnothing, .ended hx, rfl⟩
  | reading hearly hq hroom hl hmatched hdraft hn =>
    cases hmatched with
    | readingLayout htandem hpath =>
      exact ⟨hnothing, .reading hearly hq hroom hl (.readingLayout htandem hpath) hdraft hn, rfl⟩
    | readingPage htandem =>
      exact ⟨hnothing, .reading hearly hq hroom hl (.readingPage htandem) hdraft hn, rfl⟩
    | ended _ => exact hearly.elim
    | settling _ _ _ => exact hearly.elim

/-- After enough turns, a render that comes to something has ended with it. -/
theorem Progress.ends {r : Request} {s t : Site} {plan : Plan} {c : Nat} {stage : Stage}
    {x : Except Stop String} (h : Progress r s plan t c stage) (hc : patience s ≤ c)
    (hx : plan.result? s.activity.helpers = some x) : stage = .ended x := by
  have hpatience : slowest s.activity.helpers + 10 ≤ c := by
    rw [patience_eq_slowest] at hc
    omega
  cases h with
  | opening _ => omega
  | reading _ _ _ _ _ _ hn => omega
  | ended hx' =>
    rw [hx] at hx'
    rw [Option.some.inj hx']
  | settling hplan _ _ _ _ _ _ _ _ hopen =>
    rw [hplan, Plan.result?] at hx
    split at hx
    · next hall =>
      rw [List.all_eq_true] at hall
      have hlate := hopen fun d hd => Option.isSome_iff_ne_none.mp (hall d hd)
      omega
    · cases hx

theorem Progress.result {r : Request} {s t : Site} {plan : Plan} {c : Nat} {x : Except Stop String}
    (h : Progress r s plan t c (.ended x)) : plan.result? s.activity.helpers = some x := by
  cases h with
  | reading hearly => exact hearly.elim
  | ended hx => exact hx

/-- The row of the page with which a render waits. -/
theorem Progress.row {r : Request} {s t : Site} {plan : Plan} {c q rounds : Nat} {page : String}
    {w : Settling} (h : Progress r s plan t c (.settling q page rounds w)) :
    ∃ row calls, plan = .page row calls ∧ page = row.text (s.activity.ids q) ∧
      w.tasks.map (·.call) = renumber (s.activity.ids q) calls := by
  cases h with
  | reading hearly => exact hearly.elim
  | settling hplan _ _ _ _ _ hcalls => exact ⟨_, _, hplan, rfl, hcalls⟩

theorem Progress.bodied {r : Request} {s t : Site} {plan : Plan} {c : Nat} {stage : Stage}
    (h : Progress r s plan t c stage) (hearly : stage.IsEarly) :
    (s.optionsAt r.options).Bodied (t.optionsAt r.options) := by
  cases h with
  | opening hl => exact hl.bodied
  | reading _ _ _ hl => exact hl.bodied
  | settling _ => exact hearly.elim
  | ended _ => exact hearly.elim

theorem Progress.room {r : Request} {s t : Site} {plan : Plan} {c : Nat} {stage : Stage}
    (h : Progress r s plan t c stage) {q : Nat} (hq : stage.held? = some q) :
    s.activity.registries.length ≤ q ∧ q < t.activity.registries.length := by
  cases h with
  | opening _ => cases hq
  | ended _ => cases hq
  | settling _ hlow hroom =>
    cases hq
    exact ⟨hlow, hroom⟩
  | reading hearly hlow hroom _ hmatched =>
    rw [hmatched.held? hq]
    exact ⟨hlow, hroom⟩

end DeferredViews.View
