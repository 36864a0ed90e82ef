import DeferredViews.Proofs.Accounts
import DeferredViews.Proofs.Isolation

/-!
# What a render does to the options of its caller

A render sets one of its caller's options, `body`, and only when it has a layout and the content of
its page has been run: to the content as it was printed, with the placeholders of deferred calls in
it. Whatever happens before that leaves the options alone, and so does whatever happens after it:
the run of the layout, the wait for helpers, the end of the render or its cancellation.
-/
namespace DeferredViews.View

open Deferred Files Template

/-! ## Templates at hand -/

/-- What a render goes on with that has yet to run its page: its registry, the site that it runs on,
and its layout and its page as it can load them now. -/
structure Desk where
  registry : Nat
  site : Site
  layout : Except Stop (Option Wrapping)
  page : Except Stop Compiled

/-- What a render goes on with from a stage; nothing once its page was run. -/
def Stage.desk? (r : Request) : Stage → Site → Option Desk
  | .opening, s => some ⟨s.activity.registries.length, s.opened, s.layoutFor r, s.pageFor r⟩
  | .readingLayout q name path, s =>
    some ⟨q, s, (s.template r.engine path.text).map fun c => some ⟨name, c⟩, s.pageFor r⟩
  | .readingPage q layout, s => some ⟨q, s, .ok layout, s.template r.engine r.path⟩
  | .settling .., _ | .ended _, _ => none

/-- A page that was run to be put into its layout, if it has one, and what that came to. -/
structure ContentRun where
  layout : Option Wrapping
  result : Except Stop String

/-- The run of a page whose templates can be loaded. -/
def Desk.run? (r : Request) (d : Desk) : Option ContentRun :=
  match d.layout, d.page with
  | .ok layout, .ok page => some ⟨layout, (execute r d.registry page r.path d.site).1⟩
  | _, _ => none

/-- The run of the page in the next step of a render. A step that leads to another wait for a file
runs nothing yet. -/
def Stage.run? (r : Request) (stage : Stage) (s : Site) : Option ContentRun :=
  if (stage.step r s).1.ahead = 0 then (stage.desk? r s).bind (Desk.run? r) else none

/-- A run that gives a layout its `body`. -/
def ContentRun.Fills (x : ContentRun) (content : String) : Prop :=
  (∃ l, x.layout = some l) ∧ x.result = .ok content

/-- What such a run makes of options. -/
def ContentRun.bind (x : ContentRun) (o : Locals) : Locals :=
  match x.layout, x.result with
  | some _, .ok content => o.set "body" (.markup content)
  | _, _ => o

theorem Site.pageFor_opened (s : Site) (r : Request) : s.opened.pageFor r = s.pageFor r :=
  pageFor_congr rfl rfl rfl

/-- Up to its page, a render does nothing that the page could see. -/
theorem execute_near {s u : Site} (h : s.Near u) (r : Request) (q : Nat) (c : Compiled)
    (name : String) : (execute r q c name u).1 = (execute r q c name s).1 := by
  have htwin : u.Twin s := ⟨h.engines, h.activity⟩
  refine (execute_of_run (J := Site.Twin) name ?_).1
  rw [h.optionsAt]
  exact htwin.run q c _

/-! ## One step -/

/-- Where a render gets with what it has at hand: it waits for a file, with at most `n` files ahead,
and has the same at hand; or it fails to load a template; or it runs its page. -/
inductive Fares (r : Request) (d : Desk) (n : Nat) : Stage × Site → Prop
  | waits {stage : Stage} {u : Site} (hahead : 0 < stage.ahead) (hleft : stage.ahead ≤ n)
      (hnear : d.site.Near u) (hdesk : stage.desk? r u = some { d with site := u }) :
      Fares r d n (stage, u)
  | fails {e : Stop} {u : Site} (hoptions : u.options = d.site.options) (hnone : d.run? r = none) :
      Fares r d n (.ended (.error e), u)
  | runs {layout : Option Wrapping} {page : Compiled} {u : Site} (hlayout : d.layout = .ok layout)
      (hpage : d.page = .ok page) (hnear : d.site.Near u) :
      Fares r d n (Stage.after (runPage r d.registry layout page u))

namespace Fares

variable {r : Request} {d : Desk} {n : Nat} {u : Site}

theorem ofReadingPage {layout : Option Wrapping} (hlayout : d.layout = .ok layout)
    (hpage : d.page = d.site.template r.engine r.path) (hnear : d.site.Near u) :
    Fares r d n (Stage.step r (.readingPage d.registry layout) u) := by
  obtain ⟨k, htemplate⟩ := template_apply u r.engine r.path
  rw [Stage.step_eq, work_readingPage, after_bind_apply, htemplate, hnear.template]
  have hcounted := hnear.count r.engine k
  cases hfound : d.site.template r.engine r.path with
  | error e => exact .fails hcounted.options (by rw [Desk.run?, hlayout, hpage, hfound])
  | ok page =>
    generalize u.setEngine r.engine _ = v at hcounted ⊢
    obtain ⟨log, hkeep⟩ := keep_apply r .file r.path page v
    dsimp only
    rw [after_bind_apply, hkeep]
    exact .runs hlayout (hpage.trans hfound) ((hcounted.setCacheOf _ _).log log)

/-- Once the layout is settled, the page is run or read. -/
theorem ofStartPage {layout : Option Wrapping} (hlayout : d.layout = .ok layout)
    (hpage : d.page = d.site.pageFor r) (hnear : d.site.Near u)
    (hentry : (u.cacheOf r.engine).get? Space.file.text r.path =
      (d.site.cacheOf r.engine).get? Space.file.text r.path) (hleft : 1 ≤ n) :
    Fares r d n (Stage.after (startPage r d.registry layout u)) := by
  obtain ⟨log, hcached⟩ := cached?_apply r .file r.path u
  have hlog := hnear.log log
  rw [startPage, after_bind_apply, hcached, hentry]
  rw [Site.pageFor] at hpage
  cases hcache : (d.site.cacheOf r.engine).get? Space.file.text r.path with
  | some page =>
    rw [hcache] at hpage
    exact .runs hlayout hpage hlog
  | none =>
    rw [hcache] at hpage
    refine .waits Nat.one_pos hleft hlog ?_
    rw [Stage.desk?, hlayout, hpage, hlog.template]

/-- A layout that was found is read, and the page follows. -/
theorem ofReadingLayout {name : String} {path : Path}
    (hlayout : d.layout = (d.site.template r.engine path.text).map fun c => some ⟨name, c⟩)
    (hpage : d.page = d.site.pageFor r) (hleft : 1 ≤ n) :
    Fares r d n (Stage.step r (.readingLayout d.registry name path) d.site) := by
  obtain ⟨k, htemplate⟩ := template_apply d.site r.engine path.text
  have hcounted := (Site.Near.refl d.site).count r.engine k
  have hcache := d.site.cacheOf_count r.engine k
  rw [Stage.step_eq, work_readingLayout, after_bind_apply, htemplate]
  cases hfound : d.site.template r.engine path.text with
  | error e =>
    rw [hfound] at hlayout
    exact .fails hcounted.options (by rw [Desk.run?, hlayout]; rfl)
  | ok c =>
    rw [hfound] at hlayout
    generalize d.site.setEngine r.engine _ = v at hcounted hcache ⊢
    obtain ⟨log, hkeep⟩ := keep_apply r .layout name c v
    dsimp only
    rw [after_bind_apply, hkeep]
    refine ofStartPage hlayout hpage ((hcounted.setCacheOf _ _).log log) ?_ hleft
    -- The layout is kept in a space of its own, which leaves the entry of the page alone.
    rw [← hcache]
    exact v.get?_put_of_ne r.engine c (v.caching r) (Space.file_ne_layout r.path name)

/-- A render that opens has its layout by the time that its page is at hand. -/
theorem ofOpening {s : Site} (hdesk : Stage.desk? r .opening s = some d) :
    Fares r d 2 (Stage.step r .opening s) := by
  obtain rfl := Option.some.inj hdesk
  have hnear := fun log => (Site.Near.refl s.opened).log log
  have hopens := step_opens r s
  generalize Stage.step r .opening s = y at hopens ⊢
  cases hopens with
  | undecided hlayout => exact .fails rfl (by rw [Desk.run?, hlayout])
  | wanting log hlayout => exact .fails rfl (by rw [Desk.run?, hlayout])
  | page log hlayout =>
    exact ofStartPage hlayout (s.pageFor_opened r).symm (hnear log) rfl (Nat.le_succ 1)
  | layout log hreads =>
    have htemplate := fun path => ((hnear log).template r.engine path).trans
      (s.template_opened r.engine path)
    have hpage : Site.pageFor { s.opened with log } r = s.pageFor r := Site.pageFor_congr rfl rfl rfl
    refine .waits Nat.two_pos (Nat.le_refl 2) (hnear log) ?_
    rw [Stage.desk?, htemplate, hpage, hreads.layoutFor]

/-- Where any stage leads that has its page yet to run. -/
theorem ofStep {stage : Stage} {s : Site} (hdesk : stage.desk? r s = some d) :
    Fares r d (stage.ahead - 1) (stage.step r s) := by
  cases stage with
  | opening => exact ofOpening hdesk
  | readingLayout q name path =>
    obtain rfl := Option.some.inj hdesk
    exact ofReadingLayout rfl rfl (Nat.le_refl 1)
  | readingPage q layout =>
    obtain rfl := Option.some.inj hdesk
    exact ofReadingPage rfl rfl (.refl s)
  | settling q page rounds w => cases hdesk
  | ended x => cases hdesk

end Fares

/-! ## The options after a step -/

theorem getElem?_setOption {s : Site} {n : Nat} {o : Locals} (h : s.options[n]? = some o)
    (name : String) (v : Value) : (s.setOption n name v).options[n]? = some (o.set name v) := by
  obtain ⟨hroom, -⟩ := List.getElem?_eq_some_iff.mp h
  rw [Site.setOption, Site.optionsAt, h]
  exact List.getElem?_set_self hroom

/-- A page in its layout writes `body` once its content is there, and nothing else. -/
theorem options_pageText {r : Request} {q : Nat} {layout : Option Wrapping} {page : Compiled}
    {u : Site} {o : Locals} (h : u.options[r.options]? = some o) :
    (pageText r q layout page u).2.options[r.options]? =
      some (ContentRun.bind ⟨layout, (execute r q page r.path u).1⟩ o) := by
  have hcontent := execute_options r q page r.path u
  rw [pageText, bind_apply]
  generalize execute r q page r.path u = x at hcontent ⊢
  obtain ⟨result, t⟩ := x
  have ht : t.options[r.options]? = some o := (congrArg (·[r.options]?) hcontent).trans h
  cases result with
  | error e => cases layout <;> exact ht
  | ok content =>
    cases layout with
    | none => exact ht
    | some l =>
      have hlayout := execute_options r q l.compiled l.name
        (t.setOption r.options "body" (.markup content))
      exact (congrArg (·[r.options]?) hlayout).trans (getElem?_setOption ht "body" _)

theorem options_runPage {r : Request} {q : Nat} {layout : Option Wrapping} {page : Compiled}
    {u : Site} {o : Locals} (h : u.options[r.options]? = some o) :
    (Stage.after (runPage r q layout page u)).2.options[r.options]? =
      some (ContentRun.bind ⟨layout, (execute r q page r.path u).1⟩ o) := by
  have htext : (pageText r q layout page u).2.options[r.options]? = _ := options_pageText h
  obtain ⟨e, t, hpage, hafter⟩ | ⟨html, t, log, hpage, -, hafter⟩ |
    ⟨html, t, f, hpage, -, -, hafter⟩ | ⟨html, t, deadline, hpage, -, -, hafter⟩ :=
      after_runPage_cases r q layout page u
  all_goals
    rw [hpage] at htext
    rw [hafter]
    exact htext

/-- A render that has run its page leaves the options alone. -/
theorem options_step_of_ahead {r : Request} {stage : Stage} (hahead : stage.ahead = 0) (s : Site) :
    (stage.step r s).2.options = s.options ∧ (stage.step r s).1.ahead = 0 := by
  cases stage with
  | opening => cases hahead
  | readingLayout q name path => cases hahead
  | readingPage q layout => cases hahead
  | ended x => exact ⟨rfl, rfl⟩
  | settling q page rounds w =>
    obtain ⟨x, activity, log, hstep⟩ | ⟨v, activity, hstep⟩ :=
      step_settling_site r page q rounds w (s := s)
    · rw [hstep]
      exact ⟨rfl, rfl⟩
    · rw [hstep]
      exact ⟨rfl, rfl⟩

theorem desk?_isSome_iff {r : Request} {stage : Stage} {s : Site} :
    (∃ d, stage.desk? r s = some d) ↔ stage.ahead ≠ 0 := by
  cases stage <;> simp [Stage.desk?, Stage.ahead]

theorem options_of_desk? {r : Request} {stage : Stage} {s : Site} {d : Desk}
    (h : stage.desk? r s = some d) : d.site.options = s.options := by
  cases stage with
  | settling q page rounds w => cases h
  | ended x => cases h
  | _ =>
    obtain rfl := Option.some.inj h
    rfl

theorem run?_near {r : Request} {d : Desk} {u : Site} (h : d.site.Near u) :
    Desk.run? r { d with site := u } = d.run? r := by
  obtain ⟨q, s, layout, page⟩ := d
  rcases layout with e | layout
  · rfl
  · rcases page with e | page
    · rfl
    · exact congrArg (fun x => some (ContentRun.mk layout x)) (execute_near h r q page r.path)

/-- What a step makes of the options is what its run of the page does, if it comes to one. -/
theorem options_step {r : Request} {stage : Stage} {s : Site} {o : Locals}
    (h : s.options[r.options]? = some o) :
    (stage.step r s).2.options[r.options]? =
      some ((stage.run? r s).elim o fun x => x.bind o) := by
  rw [Stage.run?]
  cases hdesk : stage.desk? r s with
  | none =>
    have hahead : stage.ahead = 0 := by
      by_contra hne
      obtain ⟨d, hd⟩ := desk?_isSome_iff.mpr hne
      rw [hdesk] at hd
      cases hd
    rw [(options_step_of_ahead hahead s).1]
    split <;> exact h
  | some d =>
    have hsite : d.site.options[r.options]? = some o :=
      (congrArg (·[r.options]?) (options_of_desk? hdesk)).trans h
    have hfares := Fares.ofStep hdesk
    generalize stage.step r s = x at hfares ⊢
    cases hfares with
    | waits hahead _ hnear _ =>
      rw [if_neg (Nat.ne_of_gt hahead), hnear.options]
      exact hsite
    | fails hoptions hnone =>
      rw [Stage.ahead, if_pos rfl, Option.bind_some, hnone, hoptions]
      exact hsite
    | @runs layout page u hlayout hpage hnear =>
      have hu : u.options[r.options]? = some o :=
        (congrArg (·[r.options]?) hnear.options).trans hsite
      rw [if_pos (ahead_runPage r _ layout page u), Option.bind_some, Desk.run?, hlayout, hpage,
        options_runPage hu, execute_near hnear]
      rfl

/-! ## Whole renders -/

/-- A render over some options, from its beginning on, with the runs of its page so far: it goes on,
its task is cancelled, or it waits while the site changes but for these options. -/
inductive Journey (r : Request) (s : Site) : List ContentRun → Stage × Site → Prop
  | opening : Journey r s [] (.opening, s)
  | step {ran : List ContentRun} {stage : Stage} {t : Site} (h : Journey r s ran (stage, t)) :
      Journey r s (ran ++ (stage.run? r t).toList) (stage.step r t)
  | cancel {ran : List ContentRun} {stage : Stage} {t : Site} (h : Journey r s ran (stage, t)) :
      Journey r s ran (stage.cancel, t)
  | elsewhere {ran : List ContentRun} {stage : Stage} {t u : Site} (h : Journey r s ran (stage, t))
      (hoptions : u.options[r.options]? = t.options[r.options]?) : Journey r s ran (stage, u)

/-- A stage that a render reaches only with its content: it waits for helpers, or has ended well. -/
def Stage.hasContent : Stage → Bool
  | .settling .. | .ended (.ok _) => true
  | _ => false

/-- How the runs so far show: in the stage, and in the options. -/
structure Evident (o : Locals) (options : Option Locals) (ran : List ContentRun) (stage : Stage) :
    Prop where
  early : stage.ahead ≠ 0 → ran = []
  once : ran.length ≤ 1
  content : stage.hasContent → ∃ x ∈ ran, ∃ content, x.result = .ok content
  options : options = some (ran.foldl (fun o x => x.bind o) o)

theorem run?_of_ahead {r : Request} {stage : Stage} {s : Site} (h : stage.ahead = 0) :
    stage.run? r s = none := by
  have hdesk : stage.desk? r s = none := by
    cases stage with
    | settling q page rounds w => rfl
    | ended x => rfl
    | _ => cases h
  rw [Stage.run?, hdesk, Option.bind_none, ite_self]

/-- A run of a page that leads on has its content. -/
theorem exists_content_of_runPage {r : Request} {q : Nat} {layout : Option Wrapping}
    {page : Compiled} {u : Site} (h : (Stage.after (runPage r q layout page u)).1.hasContent) :
    ∃ content, (execute r q page r.path u).1 = .ok content := by
  cases hrun : (execute r q page r.path u).1 with
  | ok content => exact ⟨content, rfl⟩
  | error e =>
    have htext : pageText r q layout page u = (.error e, (execute r q page r.path u).2) := by
      rw [pageText, bind_apply]
      generalize execute r q page r.path u = x at hrun ⊢
      obtain ⟨result, t⟩ := x
      obtain rfl : result = .error e := hrun
      rfl
    rw [runPage_eq, after_bind_apply, htext] at h
    cases h

/-- A first run with content, or nothing yet. -/
theorem hasContent_step {r : Request} {stage : Stage} {s : Site} {d : Desk}
    (hdesk : stage.desk? r s = some d) (h : (stage.step r s).1.hasContent) :
    ∃ x, stage.run? r s = some x ∧ ∃ content, x.result = .ok content := by
  have hfares := Fares.ofStep hdesk
  rw [Stage.run?, hdesk, Option.bind_some]
  generalize stage.step r s = x at hfares h ⊢
  cases hfares with
  | @waits stage u hahead _ _ _ =>
    cases stage with
    | settling q page rounds w => cases hahead
    | ended x => cases hahead
    | _ => cases h
  | fails _ _ => cases h
  | @runs layout page u hlayout hpage hnear =>
    obtain ⟨content, hcontent⟩ := exists_content_of_runPage h
    rw [if_pos (ahead_runPage r _ layout page u), Desk.run?, hlayout, hpage]
    exact ⟨_, rfl, content, (execute_near hnear r _ page r.path).symm.trans hcontent⟩

theorem Journey.evident {r : Request} {s : Site} {o : Locals} {ran : List ContentRun}
    {x : Stage × Site} (h : Journey r s ran x) (ho : s.options[r.options]? = some o) :
    Evident o (x.2.options[r.options]?) ran x.1 := by
  induction h with
  | opening => exact ⟨fun _ => rfl, Nat.zero_le 1, nofun, ho⟩
  | elsewhere h hoptions ih => exact { ih with options := hoptions.trans ih.options }
  | @cancel ran stage t h ih =>
    cases stage with
    | settling q page rounds w => exact { ih with early := nofun, content := ih.content }
    | ended x => exact ih
    | _ => exact { ih with early := fun hne => absurd rfl hne, content := nofun }
  | @step ran stage t h ih =>
    have hoptions : (stage.step r t).2.options[r.options]? = _ := options_step ih.options
    by_cases hahead : stage.ahead = 0
    · -- The page was run before: this step only waits for helpers.
      have hnext := (options_step_of_ahead hahead t (r := r)).2
      rw [run?_of_ahead hahead] at hoptions ⊢
      rw [Option.toList_none, List.append_nil]
      refine ⟨fun hne => absurd hnext hne, ih.once, fun hcontent => ?_, hoptions⟩
      refine ih.content ?_
      cases stage with
      | settling q page rounds w => rfl
      | ended x => exact hcontent
      | _ => cases hahead
    · have hnone := ih.early hahead
      subst hnone
      obtain ⟨d, hdesk⟩ := (desk?_isSome_iff (r := r) (s := t)).mpr hahead
      rw [List.nil_append]
      refine ⟨fun hne => ?_, ?_, fun hcontent => ?_, ?_⟩
      · rw [Stage.run?, if_neg hne]
        rfl
      · cases stage.run? r t <;> simp
      · obtain ⟨x, hx, hresult⟩ := hasContent_step hdesk hcontent
        exact ⟨x, by rw [hx]; exact List.mem_singleton_self x, hresult⟩
      · rw [hoptions]
        cases stage.run? r t <;> rfl

theorem ContentRun.Fills.bind {x : ContentRun} {content : String} (h : x.Fills content)
    (o : Locals) : x.bind o = o.set "body" (.markup content) := by
  obtain ⟨⟨l, hlayout⟩, hresult⟩ := h
  rw [ContentRun.bind, hlayout, hresult]

theorem ContentRun.bind_of_not_fills {x : ContentRun} (h : ∀ content, ¬x.Fills content)
    (o : Locals) : x.bind o = o := by
  obtain ⟨_ | l, result⟩ := x
  · rfl
  · cases result with
    | error e => rfl
    | ok content => exact absurd ⟨⟨l, rfl⟩, rfl⟩ (h content)

namespace Journey

variable {r : Request} {s : Site}

theorem runStages {ran : List ContentRun} {stage : Stage} {t : Site} (n : Nat)
    (h : Journey r s ran (stage, t)) : ∃ ran', Journey r s ran' (View.runStages r n stage t) := by
  induction n generalizing ran stage t with
  | zero => exact ⟨ran, h⟩
  | succ n ih =>
    rw [View.runStages]
    cases stage.result? with
    | some x => exact ⟨ran, h⟩
    | none => exact ih h.step

theorem runCancelled {ran : List ContentRun} {stage : Stage} {t : Site} (n k : Nat)
    (h : Journey r s ran (stage, t)) :
    ∃ ran', Journey r s ran' (View.runCancelled r n k stage t) := by
  induction k generalizing ran stage t with
  | zero => exact ⟨ran, h.cancel⟩
  | succ k ih =>
    rw [View.runCancelled]
    cases stage.result? with
    | some x => exact ⟨ran, h⟩
    | none =>
      dsimp only
      split
      · exact h.step.step.cancel.runStages n
      · exact ih h.step

end Journey

/-! ## A render that nothing disturbs -/

theorem options_runStages_of_ahead {r : Request} {stage : Stage} (hahead : stage.ahead = 0) (n : Nat)
    (s : Site) : (runStages r n stage s).2.options = s.options := by
  induction n generalizing stage s with
  | zero => rfl
  | succ n ih =>
    obtain ⟨hoptions, hnext⟩ := options_step_of_ahead hahead s (r := r)
    rw [runStages]
    cases stage.result? with
    | some x => rfl
    | none => exact (ih hnext _).trans hoptions

/-- A render that has yet to run its page runs it with the templates that it has at hand, after a
step for each file that it waits for. -/
theorem options_runStages {r : Request} {stage : Stage} {s : Site} {d : Desk} {o : Locals} {n : Nat}
    (hdesk : stage.desk? r s = some d) (hn : stage.ahead ≤ n)
    (ho : s.options[r.options]? = some o) :
    (runStages r n stage s).2.options[r.options]? =
      some ((d.run? r).elim o fun x => x.bind o) := by
  induction n generalizing stage s d with
  | zero => exact absurd (Nat.le_zero.mp hn) (desk?_isSome_iff.mp ⟨d, hdesk⟩)
  | succ n ih =>
    have hresult : stage.result? = none := by
      cases stage with
      | ended x => cases hdesk
      | _ => rfl
    have hsite : d.site.options[r.options]? = some o :=
      (congrArg (·[r.options]?) (options_of_desk? hdesk)).trans ho
    have hfares := Fares.ofStep hdesk
    rw [runStages_succ r n s hresult]
    generalize stage.step r s = x at hfares ⊢
    cases hfares with
    | @waits stage' u hahead hleft hnear hnext =>
      have hu : u.options[r.options]? = some o :=
        (congrArg (·[r.options]?) hnear.options).trans hsite
      rw [ih hnext (by omega) hu, run?_near hnear]
    | @fails e u hoptions hnone =>
      rw [runStages_ended, hnone, hoptions]
      exact hsite
    | @runs layout page u hlayout hpage hnear =>
      have hu : u.options[r.options]? = some o :=
        (congrArg (·[r.options]?) hnear.options).trans hsite
      rw [options_runStages_of_ahead (ahead_runPage r _ layout page u), options_runPage hu,
        execute_near hnear, Desk.run?, hlayout, hpage]
      rfl

/-- A render finds its layout and its page, and the page can be run. -/
def Site.FillsBody (s : Site) (r : Request) (content : String) : Prop :=
  ∃ l page, s.layoutFor r = .ok (some l) ∧ s.pageFor r = .ok page ∧
    (execute r s.activity.registries.length page r.path s.opened).1 = .ok content

theorem Journey.fills {r : Request} {s : Site} {o : Locals} {ran : List ContentRun}
    {x : Stage × Site} (h : Journey r s ran x) (ho : s.options[r.options]? = some o)
    {y : ContentRun} (hy : y ∈ ran) {content : String} (hfilled : y.Fills content) :
    x.2.options[r.options]? = some (o.set "body" (.markup content)) := by
  obtain ⟨-, honce, -, hoptions⟩ := h.evident ho
  cases ran with
  | nil => cases hy
  | cons z more =>
    obtain rfl : more = [] := List.length_eq_zero_iff.mp
      (Nat.le_zero.mp (Nat.le_of_succ_le_succ honce))
    obtain rfl := List.mem_singleton.mp hy
    rw [hoptions, List.foldl_cons, List.foldl_nil, hfilled.bind]

theorem Journey.leaves {r : Request} {s : Site} {o : Locals} {ran : List ContentRun}
    {x : Stage × Site} (h : Journey r s ran x) (ho : s.options[r.options]? = some o)
    (hnone : ∀ y ∈ ran, ∀ content, ¬y.Fills content) : x.2.options[r.options]? = some o := by
  obtain ⟨-, -, -, hoptions⟩ := h.evident ho
  rw [hoptions]
  clear hoptions h
  induction ran with
  | nil => rfl
  | cons y more ih =>
    rw [List.foldl_cons, ContentRun.bind_of_not_fills (hnone y List.mem_cons_self)]
    exact ih fun z hz => hnone z (List.mem_cons_of_mem y hz)

/-- No option but `body` changes. -/
theorem Journey.get?_of_ne {r : Request} {s : Site} {o : Locals} {ran : List ContentRun}
    {x : Stage × Site} (h : Journey r s ran x) (ho : s.options[r.options]? = some o) {name : String}
    (hname : name ≠ "body") : (x.2.optionsAt r.options).get? name = o.get? name := by
  by_cases hsome : ∃ y ∈ ran, ∃ content, y.Fills content
  · obtain ⟨y, hy, content, hfilled⟩ := hsome
    rw [Site.optionsAt, h.fills ho hy hfilled, Option.getD_some]
    exact o.get?_set_of_ne _ hname
  · have hkept := h.leaves ho fun y hy content hfilled => hsome ⟨y, hy, content, hfilled⟩
    rw [Site.optionsAt, hkept, Option.getD_some]

theorem options_render {r : Request} {s : Site} {o : Locals}
    (ho : s.options[r.options]? = some o) :
    (render r s).2.options[r.options]? =
      some (((Stage.desk? r .opening s).bind (Desk.run? r)).elim o fun x => x.bind o) := by
  have hroom : Stage.ahead .opening ≤ patience s := by
    rw [patience, Stage.ahead]
    omega
  have hdesk : Stage.desk? r .opening s = some _ := rfl
  exact options_runStages hdesk hroom ho

theorem Site.FillsBody.options_render {r : Request} {s : Site} {o : Locals} {content : String}
    (h : s.FillsBody r content) (ho : s.options[r.options]? = some o) :
    (render r s).2.options[r.options]? = some (o.set "body" (.markup content)) := by
  obtain ⟨l, page, hlayout, hpage, hrun⟩ := h
  rw [View.options_render ho, Stage.desk?, Option.bind_some, Desk.run?, hlayout, hpage]
  dsimp only
  rw [hrun]
  rfl

theorem options_render_of_not_fillsBody {r : Request} {s : Site} {o : Locals}
    (hnone : ∀ content, ¬s.FillsBody r content) (ho : s.options[r.options]? = some o) :
    (render r s).2.options[r.options]? = some o := by
  rw [options_render ho, Stage.desk?, Option.bind_some, Desk.run?]
  cases hlayout : s.layoutFor r with
  | error e => rfl
  | ok layout =>
    cases hpage : s.pageFor r with
    | error e => rfl
    | ok page =>
      refine congrArg some (ContentRun.bind_of_not_fills ?_ o)
      rintro content ⟨⟨l, rfl⟩, hrun⟩
      exact hnone content ⟨l, page, hlayout, hpage, hrun⟩

/-- What a render does to the options of its caller. Wherever it has got, on its own or with other
work between its steps, and if it was cancelled at any time: it has run its page at most once, and
has done so if it waits for helpers or has ended well. If that run gave the content for a layout that
was loaded, the options have that content as `body`, as it was printed; otherwise they are as they
were. No other option has changed. Renders that nobody disturbs, or that are cancelled when a helper
hangs, are such journeys, and one that nobody disturbs fills `body` exactly if it finds its layout and
its page and the page can be run. -/
theorem options_of_render {r : Request} {s : Site} {o : Locals}
    (ho : s.options[r.options]? = some o) :
    (∀ ran x, Journey r s ran x →
      ran.length ≤ 1 ∧ (x.1.hasContent → ∃ y ∈ ran, ∃ content, y.result = .ok content) ∧
      (∀ y ∈ ran, ∀ content, y.Fills content →
        x.2.options[r.options]? = some (o.set "body" (.markup content))) ∧
      ((∀ y ∈ ran, ∀ content, ¬y.Fills content) → x.2.options[r.options]? = some o) ∧
      ∀ name, name ≠ "body" → (x.2.optionsAt r.options).get? name = o.get? name) ∧
    (∃ ran x, Journey r s ran x ∧ render r s = (x.1.resultOrCancelled, x.2)) ∧
    (∃ ran x, Journey r s ran x ∧ renderCancelled r s = (x.1.resultOrCancelled, x.2)) ∧
    (∀ content, s.FillsBody r content →
      (render r s).2.options[r.options]? = some (o.set "body" (.markup content))) ∧
    ((∀ content, ¬s.FillsBody r content) → (render r s).2.options[r.options]? = some o) := by
  refine ⟨fun ran x h => ?_, ?_, ?_, fun content h => h.options_render ho, fun h =>
    options_render_of_not_fillsBody h ho⟩
  · obtain ⟨-, honce, hcontent, -⟩ := h.evident ho
    exact ⟨honce, hcontent, fun y hy content hfilled => h.fills ho hy hfilled, h.leaves ho,
      fun name hname => h.get?_of_ne ho hname⟩
  · obtain ⟨ran, hjourney⟩ := Journey.opening.runStages (r := r) (s := s) (patience s)
    exact ⟨ran, _, hjourney, rfl⟩
  · obtain ⟨ran, hjourney⟩ := Journey.opening.runCancelled (r := r) (s := s) (patience s) (patience s)
    exact ⟨ran, _, hjourney, rfl⟩

/-- The placeholder of the one call on a page of `greetingSite`. -/
def greetingToken : String := placeholder (greetingSite.activity.ids 0) 0

theorem fillsBody_greetingSite :
    greetingSite.FillsBody (greetings false) (greetingText false ++ greetingToken) := by
  have hrun : (greeting (greetingText false)).run
      (hostFor 0 (greetingSite.opened.engine 0) (some 0)) [] = _ :=
    run_greeting rfl rfl _ (.inl rfl)
  refine ⟨⟨"layout", ⟨0, brackets⟩⟩, ⟨0, greeting (greetingText false)⟩, rfl, rfl, ?_⟩
  have hlocals : greetingSite.opened.optionsAt (greetings false).options = [] := rfl
  have hregistry : greetingSite.activity.registries.length = 0 := rfl
  rw [hregistry, execute_apply, hlocals, Compiled.run, hrun]
  rfl

/-- The content stays in the options with its placeholder, which the page that was printed has not. -/
theorem options_of_greeting_render :
    (render (greetings false) greetingSite).2.options[(greetings false).options]? =
      some [("body", .markup (greetingText false ++ greetingToken))] := by
  have hbefore : greetingSite.options[(greetings false).options]? = some [] := rfl
  exact (options_of_render hbefore).2.2.2.1 _ fillsBody_greetingSite

end DeferredViews.View
