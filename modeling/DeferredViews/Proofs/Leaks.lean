import DeferredViews.Proofs.Inert
import DeferredViews.Proofs.Tokens
import DeferredViews.Proofs.Verdict

/-!
# Where placeholders may be left

A render that put off calls returns no placeholder at all, since a page with a delimiter left over
fails. A render that put off none returns what its page and its layout print. These see of earlier
renders only what is in the options, and a render leaves nothing there but `body`. So this is where
placeholders of earlier renders may come from, and nowhere else.
-/
namespace DeferredViews.Deferred

/-- A registry whose calls are all still pending. -/
def Registry.Untaken (r : Registry) : Prop := r.issued = r.pending.length

theorem Activity.untaken_register {a : Activity} {q : Nat} (h : (a.registry q).Untaken)
    (name : String) (i : Nat) (args : List Value) (kwargs : Locals) :
    ((a.register q name i args kwargs).2.registry q).Untaken := by
  rw [register]
  dsimp only
  rcases a.registry_setRegistry q ((a.registry q).register _ i args kwargs).2 with heq | heq
  · rw [heq, Registry.Untaken, Registry.register_issued, Registry.register_pending,
      List.length_append, h]
    rfl
  · rw [heq]
    exact h

theorem occurs_placeholder_of_not_tainted {text : List Char} (h : tainted text = false)
    (id : String) (n : Nat) : Text.occurs (placeholder id n).toList text = false := by
  rw [← Bool.not_eq_true, Text.occurs_iff]
  rintro ⟨before, after, rfl⟩
  rw [tainted_append, tainted_append, tainted_placeholder] at h
  simp at h

namespace Settling

variable {w : Settling} {deadline : Option Deadline}

theorem calls_stepAll (scope : Option Nat) (tasks : List Task) (a : Activity) :
    (stepAll scope tasks a).1.map (·.call) = tasks.map (·.call) := by
  induction tasks generalizing a with
  | nil => rfl
  | cons t more ih =>
    rw [stepAll]
    dsimp only
    rw [List.map_cons, List.map_cons, Task.call_step, ih]

theorem calls_expire (w : Settling) : w.expire.tasks.map (·.call) = w.tasks.map (·.call) := by
  rw [expire]
  split
  · rfl
  · split
    · rfl
    · rw [List.map_map]
      exact List.map_congr_left fun t _ => t.call_cancel

/-- A wait goes on with the calls that it began with. -/
theorem calls_advance (w : Settling) (scope : Option Nat) (deadline : Option Deadline)
    (rounds : Nat) (a : Activity) :
    (w.advance scope deadline rounds a).1.tasks.map (·.call) = w.tasks.map (·.call) := by
  have hround : (w.round scope a).1.tasks.map (·.call) = w.tasks.map (·.call) :=
    calls_stepAll scope w.tasks a
  rw [advance]
  dsimp only
  split
  · exact (calls_expire _).trans hround
  · exact hround

theorem tasks_advance_ne_nil (h : w.tasks ≠ []) (scope : Option Nat) (rounds : Nat)
    (a : Activity) : (w.advance scope deadline rounds a).1.tasks ≠ [] := by
  have hcalls := w.calls_advance scope deadline rounds a
  intro hnil
  rw [hnil] at hcalls
  exact h (List.map_eq_nil_iff.mp hcalls.symm)

end Settling

end DeferredViews.Deferred

namespace DeferredViews.View

open Deferred

/-- A wait that ends with values ends with one for each call, in order. -/
theorem values_of_verdict {deadline : Option Deadline} {calls : List (Pending × Option Outcome)}
    {values : List (String × String)} (h : verdict deadline calls = .ok values) :
    values = calls.map fun c => (c.1.token, outcomeText c.2) := by
  rw [verdict] at h
  split at h
  · cases h
  · split at h
    · cases h
    · split at h
      · cases h
      · split at h
        · cases h
        · exact (Except.ok.inj h).symm

theorem tokens_of_values {w : Settling} {settled : Settled} {deadline : Option Deadline}
    {values : List (String × String)} (hresult : w.result? = some settled)
    (hvalues : settled.result deadline = .ok values) :
    values.map (·.1) = w.tasks.map (·.call.token) := by
  rw [Settling.result?] at hresult
  split at hresult
  · next hall =>
    cases hending : w.ending with
    | some ending =>
      rw [hending] at hresult
      cases ending <;> cases hresult <;> cases hvalues
    | none =>
      rw [hending] at hresult
      cases hresult
      rw [result_ofTasks deadline hall] at hvalues
      rw [values_of_verdict hvalues, Settling.outcomes, List.map_map, List.map_map]
      rfl
  · cases hresult

/-- A wait for some calls that ends with values ends with some. -/
theorem values_ne_nil {w : Settling} {settled : Settled} {deadline : Option Deadline}
    {values : List (String × String)} (hne : w.tasks ≠ []) (hresult : w.result? = some settled)
    (hvalues : settled.result deadline = .ok values) : values ≠ [] := by
  have htokens := tokens_of_values hresult hvalues
  rintro rfl
  exact hne (List.map_eq_nil_iff.mp htokens.symm)

/-- While a page is run, the calls that it puts off stay pending. -/
theorem untaken_pageText (r : Request) (q : Nat) (layout : Option Wrapping) (page : Compiled)
    {s : Site} (h : (s.activity.registry q).Untaken) :
    ((pageText r q layout page s).2.activity.registry q).Untaken :=
  activity_pageText_keeps (P := fun a => (a.registry q).Untaken)
    (fun a name i args kwargs ha => a.untaken_register ha name i args kwargs)
    (fun _ _ _ ha => ha) r layout page h

/-- A render that waits for calls ends without a delimiter in its page. -/
theorem not_tainted_of_settling (r : Request) (q : Nat) (rendered : String) {rounds : Nat}
    {w : Settling} {s : Site} (n : Nat) {html : String} (hne : w.tasks ≠ [])
    (h : (runStages r n (.settling q rendered rounds w) s).1.resultOrCancelled = .ok html) :
    tainted html.toList = false := by
  -- Every round keeps that some calls are waited for, so the page is completed with their values,
  -- and a page that is completed with values is searched for what is left over.
  induction n generalizing rounds w s with
  | zero => cases h
  | succ n ih =>
    rw [runStages_succ r n s rfl] at h
    cases hdeadline : deadlineOf (s.engine r.engine).timeout with
    | error f =>
      rw [step_settling_error r rendered q rounds w hdeadline, runStages_ended] at h
      cases h
    | ok deadline =>
      have hadvanced : (w.advance (some q) deadline rounds s.activity).1.tasks ≠ [] :=
        Settling.tasks_advance_ne_nil hne (some q) rounds s.activity
      cases hresult : (w.advance (some q) deadline rounds s.activity).1.result? with
      | none =>
        rw [step_settling_none r rendered q rounds w hdeadline hresult] at h
        exact ih hadvanced h
      | some settled =>
        obtain ⟨log, hstep⟩ := step_settling_some r rendered q rounds w hdeadline hresult
        rw [hstep, runStages_ended] at h
        have hend : endWith r q rendered _ (settled.result deadline) = .ok html := h
        cases hvalues : settled.result deadline with
        | error stop =>
          rw [hvalues] at hend
          cases hend
        | ok values =>
          rw [hvalues, endWith,
            complete_eq r q rendered (values_ne_nil hadvanced hresult hvalues)] at hend
          split at hend
          · cases hend
          · next hfree =>
            cases hend
            rw [Bool.not_eq_true] at hfree
            exact hfree

/-- What a page prints in its layout if it puts off no call, and what becomes of it if it does. -/
theorem printed_ok {r : Request} {s : Site} {layout : Option Wrapping} {page : Compiled}
    {html : String} (h : s.printed r layout page = .ok html) :
    tainted html.toList = false ∨
      ∃ t, pageText r s.activity.registries.length layout page s.opened = (.ok html, t) ∧
        (t.activity.registry s.activity.registries.length).issued = 0 := by
  have hopened : (s.opened.activity.registry s.activity.registries.length).Untaken := by
    rw [s.registry_opened]
    rfl
  have huntaken := untaken_pageText r s.activity.registries.length layout page hopened
  rw [Site.printed] at h
  obtain ⟨e, t, -, hafter⟩ | ⟨rendered, t, log, htext, hpending, hafter⟩ |
    ⟨rendered, t, f, -, -, -, hafter⟩ | ⟨rendered, t, deadline, -, hpending, -, hafter⟩ :=
      after_runPage_cases r s.activity.registries.length layout page s.opened
  all_goals rw [hafter] at h
  · rw [runStages_ended] at h
    cases h
  -- No call is pending and none was taken yet, so none was put off.
  · rw [runStages_ended] at h
    cases h
    rw [htext] at huntaken
    refine .inr ⟨t, htext, ?_⟩
    rw [huntaken, hpending]
    rfl
  · rw [runStages_ended] at h
    cases h
  · have htasks : (Settling.ofPending
        (t.activity.registry s.activity.registries.length).pending).tasks ≠ [] := by
      simpa [Settling.ofPending] using hpending
    exact .inl (not_tainted_of_settling r _ rendered _ htasks h)

/-- What a render sees of an activity: the helpers, how often each was started, and the id of the
registry that it is about to open. -/
theorem render_withActivity (r : Request) (s : Site) {a : Activity}
    (hhelpers : a.helpers = s.activity.helpers) (hstarts : a.starts = s.activity.starts)
    (hid : a.ids a.registries.length = s.activity.ids s.activity.registries.length) :
    (render r { s with activity := a }).1 = (render r s).1 := by
  have ht := Site.registry_opened { s with activity := a }
  have hs := s.registry_opened
  refine render_of_peers ?_ r rfl rfl
  -- Each holds the registry that it opened, and the two have the same id and no calls.
  refine ⟨fun d => ⟨.refl (s.engine d), rfl⟩, rfl, hhelpers, hstarts, ?_,
    Site.room_opened { s with activity := a }, s.room_opened⟩
  rw [hs, ← hid]
  exact ht

/-- A render that ends with a page either returns no placeholder of any registry, or put off no call
and returns what its page printed in its layout. It would return the same whatever earlier renders
had left in their registries, and it leaves all options as they are but for `body`. -/
theorem placeholders_of_render (r : Request) (s : Site) {html : String}
    (h : (render r s).1 = .ok html) :
    ((∀ id n, Text.occurs (placeholder id n).toList html.toList = false) ∨
      ∃ layout page t, s.layoutFor r = .ok layout ∧ s.pageFor r = .ok page ∧
        pageText r s.activity.registries.length layout page s.opened = (.ok html, t) ∧
        (t.activity.registry s.activity.registries.length).issued = 0) ∧
    (∀ a : Activity, a.helpers = s.activity.helpers → a.starts = s.activity.starts →
      a.ids a.registries.length = s.activity.ids s.activity.registries.length →
      (render r { s with activity := a }).1 = .ok html) ∧
    ∀ o name, name ≠ "body" →
      ((render r s).2.optionsAt o).get? name = (s.optionsAt o).get? name := by
  refine ⟨?_, ?_, fun o name hname => get?_optionsAt_render r s o hname⟩
  · rw [render_eq] at h
    cases hlayout : s.layoutFor r with
    | error stop =>
      rw [hlayout] at h
      cases h
    | ok layout =>
      cases hpage : s.pageFor r with
      | error stop =>
        rw [hlayout, hpage] at h
        cases h
      | ok page =>
        rw [hlayout, hpage] at h
        rcases printed_ok h with hfree | ⟨t, htext, hissued⟩
        · exact .inl (occurs_placeholder_of_not_tainted hfree)
        · exact .inr ⟨layout, page, t, rfl, rfl, htext, hissued⟩
  · intro a hhelpers hstarts hid
    exact (render_withActivity r s hhelpers hstarts hid).trans h

/-- A helper that answers at once. -/
def answersAnn : Helper :=
  { name := "user", doc := none, isTask := true, pauses := 0, body := fun _ => .value (.str "Ann") }

/-- A source that was compiled before. -/
def compiledSource (source : String) : Compiled :=
  ⟨0, (Template.compile true none source).toOption.getD ⟨none, []⟩⟩

/-- A page that prints a helper, one that prints `body`, and a layout for both, all of them in the
cache, with options that both pages are rendered with. -/
def profileSite : Site :=
  { files := ⟨[], []⟩
    engines :=
      [{ cache := 0, partialExtensions := [], globals := [("user", .function (.deferred "user" 0))] }]
    caches :=
      [⟨[(("file", "/v/page.html"), compiledSource "{{ user() }}"),
        (("file", "/v/again.html"), compiledSource "{{ body }}"),
        (("layout", "layout"), compiledSource "[{{ body }}]")]⟩]
    options := [[]]
    activity := { ids := fun q => if q = 0 then "c0" else "c1", helpers := [answersAnn] } }

theorem render_profile : (render ⟨0, "/v/page.html", 0⟩ profileSite).1 = .ok "[Ann]" :=
  eq_ok_of_toOption (by decide +kernel)

/-- The page with the helper is the same whatever renders there were before. -/
theorem render_profile_elsewhere :
    (render ⟨0, "/v/page.html", 0⟩ profileSite).1 = .ok "[Ann]" ∧
      ∀ a : Activity, a.helpers = [answersAnn] → a.starts = [] → a.ids a.registries.length = "c0" →
        (render ⟨0, "/v/page.html", 0⟩ { profileSite with activity := a }).1 = .ok "[Ann]" :=
  ⟨render_profile, (placeholders_of_render ⟨0, "/v/page.html", 0⟩ profileSite render_profile).2.1⟩

/-- The other page, rendered with the same options afterwards, returns the placeholder that the
first registry issued. -/
theorem placeholder_of_earlier_render :
    (render ⟨0, "/v/page.html", 0⟩ profileSite).1 = .ok "[Ann]" ∧
      ((render ⟨0, "/v/page.html", 0⟩ profileSite).2.activity.registry 0).id = "c0" ∧
      ((render ⟨0, "/v/page.html", 0⟩ profileSite).2.activity.registry 0).issued = 1 ∧
      (render ⟨0, "/v/again.html", 0⟩ (render ⟨0, "/v/page.html", 0⟩ profileSite).2).1 =
        .ok ("[" ++ placeholder "c0" 0 ++ "]") := by
  refine ⟨render_profile, by decide +kernel, by decide +kernel, eq_ok_of_toOption ?_⟩
  decide +kernel

end DeferredViews.View
