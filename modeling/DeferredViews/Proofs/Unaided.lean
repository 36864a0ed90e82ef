import DeferredViews.Proofs.Ends

/-!
# Renders without helpers

Where no helpers are registered nobody cancels a render and nothing is waited for. It ends with its
page, with a failure, or with one of four faults that no failure stands for: its options do not
settle a layout, they tell no roots to look for it, a file that it reads is no text, or its path
holds a null character.
-/
namespace DeferredViews.Deferred

/-- Where no helpers are known every task comes to nothing in one step. -/
theorem Settling.stepAll_of_no_helpers {a : Activity} (h : a.helpers = []) (scope : Option Nat)
    (tasks : List Task) :
    stepAll scope tasks a =
      (tasks.map fun t => { t with state := .finished (.value .null) }, a) := by
  induction tasks with
  | nil => rfl
  | cons t more ih =>
    have hstep : t.step scope a = ({ t with state := .finished (.value .null) }, a) := by
      rw [Task.step, h]
      rfl
    rw [stepAll, hstep]
    dsimp only
    rw [ih]
    rfl

/-- One round ends a wait then. -/
theorem Settling.result?_of_no_helpers {a : Activity} (h : a.helpers = []) (scope : Option Nat)
    (deadline : Option Deadline) (rounds : Nat) (calls : List Pending) :
    ∃ settled, ((ofPending calls).advance scope deadline rounds a).1.result? = some settled := by
  have hround : ∀ t ∈ ((ofPending calls).round scope a).1.tasks, t.isFinished = true := by
    rw [round, stepAll_of_no_helpers h]
    intro t ht
    obtain ⟨u, -, rfl⟩ := List.mem_map.mp ht
    rfl
  have hexpire : ((ofPending calls).round scope a).1.expire = ((ofPending calls).round scope a).1 := by
    rw [expire]
    have hnone : ((ofPending calls).round scope a).1.tasks.filter (!·.isFinished) = [] := by
      rw [List.filter_eq_nil_iff]
      intro t ht
      simp [hround t ht]
    rw [hnone]
    cases ((ofPending calls).round scope a).1.ending <;> rfl
  have hadvance : ((ofPending calls).advance scope deadline rounds a).1 =
      ((ofPending calls).round scope a).1 := by
    rw [advance]
    dsimp only
    rw [hexpire, ite_self]
  have hall : ((ofPending calls).round scope a).1.allFinished = true := List.all_eq_true.mpr hround
  rw [hadvance, result?, if_pos hall]
  exact ⟨_, rfl⟩

end DeferredViews.Deferred

namespace DeferredViews.View

open Deferred Files

/-- The faults that a render without helpers lets through. -/
inductive Site.LetsThrough (s : Site) (r : Request) : Fault → Prop
  | decision {f : Fault} (h : LayoutDecision.ofOptions (s.optionsAt r.options) = .error f) :
    LetsThrough s r f
  | roots {decision : LayoutDecision} {name : String} {f : Fault}
    (hdecision : LayoutDecision.ofOptions (s.optionsAt r.options) = .ok decision)
    (hname : decision.name? = some name)
    (hcache : (s.cacheOf r.engine).get? Space.layout.text name = none)
    (h : rootsOf (s.optionsAt r.options) = .error f) : LetsThrough s r f
  | undecodable {path : String} {why : Text.Utf8Error} (hreads : s.Reads r path)
    (hnull : '\x00' ∉ path.toList)
    (hread : s.files.readText (.ofText path) = .error (.decode why)) :
    LetsThrough s r (.unreadable (.decode why))
  | null {path : String} (hreads : s.Reads r path) (hnull : '\x00' ∈ path.toList) :
    LetsThrough s r (.value "embedded null byte")

/-- A stop that is a failure, or a fault that such a render lets through. -/
def Stop.Plainly (s : Site) (r : Request) (e : Stop) : Prop :=
  (∃ f, e = .failure f) ∨ ∃ f, s.LetsThrough r f ∧ e = .fault f

section

variable {s : Site} {r : Request} {e : Stop}

theorem template_plainly {path : String} (hreads : s.Reads r path)
    (h : s.template r.engine path = .error e) : e.Plainly s r := by
  rw [Site.template_eq] at h
  cases htext : templateText s.files path with
  | ok source =>
    rw [htext] at h
    dsimp only at h
    split at h
    · cases h
    · cases h
      exact .inl ⟨_, rfl⟩
  | error stop =>
    rw [htext] at h
    cases h
    by_cases hnull : '\x00' ∈ path.toList
    · rw [templateText, if_pos hnull] at htext
      cases htext
      exact .inr ⟨_, .null hreads hnull, rfl⟩
    · obtain ⟨hnull', -⟩ | ⟨why, -, rfl⟩ | ⟨why, hread, rfl⟩ := templateText_error htext
      · exact absurd hnull' hnull
      · exact .inl ⟨_, rfl⟩
      · exact .inr ⟨_, .undecodable hreads hnull hread, rfl⟩

/-- A search for a layout fails only for want of view roots. -/
theorem rootsOf_of_file?_error {name : String} {f : Fault}
    (h : (r.search (s.optionsAt r.options) name).file? s.files = .error f) :
    rootsOf (s.optionsAt r.options) = .error f := by
  rw [Search.file?, Request.search] at h
  cases hroots : rootsOf (s.optionsAt r.options) with
  | ok roots =>
    rw [hroots] at h
    cases h
  | error g =>
    rw [hroots] at h
    cases h
    rfl

theorem layoutFor_plainly (h : s.layoutFor r = .error e) : e.Plainly s r := by
  have hby := s.layoutFor_by r
  rw [h] at hby
  generalize hresult : (Except.error e : Except Stop (Option Wrapping)) = result at hby
  cases hby with
  | undecided hdecision =>
    cases hresult
    exact .inr ⟨_, .decision hdecision, rfl⟩
  | unwanted => cases hresult
  | kept => cases hresult
  | fault hdecision hname hnew hfile =>
    cases hresult
    exact .inr ⟨_, .roots hdecision hname hnew (rootsOf_of_file?_error hfile), rfl⟩
  | missing =>
    split at hresult
    · cases hresult
      exact .inl ⟨_, rfl⟩
    · cases hresult
  | @found _ _ path hdecision hname hnew hfile =>
    cases htemplate : s.template r.engine path.text with
    | ok c =>
      rw [htemplate] at hresult
      cases hresult
    | error stop =>
      rw [htemplate] at hresult
      cases hresult
      exact template_plainly (.layout hdecision hname hnew hfile) htemplate

theorem pageFor_plainly {layout : Option Wrapping} (hlayout : s.layoutFor r = .ok layout)
    (h : s.pageFor r = .error e) : e.Plainly s r := by
  rw [Site.pageFor] at h
  cases hcache : (s.cacheOf r.engine).get? Space.file.text r.path with
  | some c =>
    rw [hcache] at h
    cases h
  | none =>
    rw [hcache] at h
    exact template_plainly (.page hlayout hcache) h

theorem cancelWithin_of_no_helpers {helpers : List Helper} (h : helpers = []) :
    CancelWithin (fun _ => False) helpers := by
  intro helper hmem
  rw [h] at hmem
  cases hmem

/-- Nothing stops a render without helpers once its templates are loaded, but a failure. -/
theorem printed_plainly (hhelpers : s.activity.helpers = [])
    (htimeout : ∀ f, deadlineOf (s.engine r.engine).timeout ≠ .error f)
    {layout : Option Wrapping} {page : Compiled} (h : s.printed r layout page = .error e) :
    e.Plainly s r := by
  have hnobody := cancelWithin_of_no_helpers hhelpers
  have htimeout' := timeout_pageText r s.activity.registries.length layout page s.opened
  have hhelpers' := helpers_pageText r s.activity.registries.length layout page s.opened
  have htext : ∀ e, (pageText r s.activity.registries.length layout page s.opened).1 = .error e →
      e.OfTemplate fun _ => False := fun _ => pageText_error hnobody
  rw [Site.printed] at h
  obtain ⟨stop, t, hpage, hafter⟩ | ⟨html, t, log, hpage, -, hafter⟩ |
    ⟨html, t, f, hpage, -, hfault, hafter⟩ | ⟨html, t, deadline, hpage, -, hdeadline, hafter⟩ :=
      after_runPage_cases r s.activity.registries.length layout page s.opened
  all_goals
    rw [hpage] at htimeout' hhelpers' htext
    rw [hafter] at h
    dsimp only at h htimeout' hhelpers'
  · rw [runStages_ended] at h
    cases h
    obtain ⟨name, f, rfl⟩ | ⟨message, hfalse, -⟩ := htext e rfl
    · exact .inl ⟨_, rfl⟩
    · exact hfalse.elim
  · rw [runStages_ended] at h
    cases h
  · rw [htimeout'] at hfault
    exact absurd hfault (htimeout f)
  · -- All tasks come to nothing in the first round, which ends the wait.
    have hnone : t.activity.helpers = [] := hhelpers'.trans hhelpers
    let u : Site := { t with activity := (t.activity.takePending s.activity.registries.length).2 }
    obtain ⟨settled, hsettled⟩ := Settling.result?_of_no_helpers (a := u.activity) hnone
      (some s.activity.registries.length) deadline 0
      (t.activity.registry s.activity.registries.length).pending
    obtain ⟨log, hstep⟩ := step_settling_some (s := u) r html s.activity.registries.length 0 _
      hdeadline hsettled
    have hpatience : ∃ n, patience s = n + 1 := ⟨4 + s.activity.patience, by rw [patience]; omega⟩
    obtain ⟨n, hn⟩ := hpatience
    have hended : (runStages r (patience s) (.settling s.activity.registries.length html 0
        (.ofPending (t.activity.registry s.activity.registries.length).pending)) u).1 =
        .ended (.error e) := by
      rw [hn, runStages_succ r n u rfl, hstep, runStages_ended] at h ⊢
      exact congrArg Stage.ended h
    have hset : ∀ f, deadlineOf (u.engine r.engine).timeout ≠ .error f := by
      intro f hfault
      cases hdeadline.symm.trans hfault
    have hhelper := runStages_settling_error (Settling.unforced_ofPending _)
      (cancelWithin_of_no_helpers (show u.activity.helpers = [] from hnone)) hset hended
    obtain ⟨name, message, cause, rfl⟩ | ⟨message, hfalse, -⟩ := hhelper
    · exact .inl ⟨_, rfl⟩
    · exact hfalse.elim

/-- How a render without helpers ends that does not end with a page. -/
theorem render_plainly (hhelpers : s.activity.helpers = [])
    (htimeout : ∀ f, deadlineOf (s.engine r.engine).timeout ≠ .error f)
    (h : (render r s).1 = .error e) : e.Plainly s r := by
  rw [render_eq] at h
  cases hlayout : s.layoutFor r with
  | error stop =>
    rw [hlayout] at h
    cases h
    exact layoutFor_plainly hlayout
  | ok layout =>
    rw [hlayout] at h
    change (s.pageFor r).bind (s.printed r layout) = .error e at h
    cases hpage : s.pageFor r with
    | error stop =>
      rw [hpage] at h
      cases h
      exact pageFor_plainly hlayout hpage
    | ok page =>
      rw [hpage] at h
      exact printed_plainly hhelpers htimeout h

/-- Each of these faults does end the render. -/
theorem Site.LetsThrough.render {f : Fault} (h : s.LetsThrough r f) :
    (View.render r s).1 = .error (.fault f) := by
  cases h with
  | decision h =>
    rw [render_eq, Site.layoutFor, h]
    rfl
  | @roots decision name _ hdecision hname hcache h =>
    have hfile : (r.search (s.optionsAt r.options) name).file? s.files = .error f := by
      rw [Search.file?, Request.search, h]
      rfl
    rw [render_eq, Site.layoutFor, hdecision]
    dsimp only
    rw [hname]
    dsimp only
    rw [hcache]
    dsimp only
    rw [Site.foundLayout, hfile]
    rfl
  | undecodable hreads hnull hread => exact hreads.render_error (template_of_decode hnull hread)
  | @null path hreads hnull =>
    refine hreads.render_error ?_
    rw [Site.template_eq, templateText, if_pos hnull]

end

end DeferredViews.View
