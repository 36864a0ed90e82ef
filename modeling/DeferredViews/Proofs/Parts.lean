import DeferredViews.Proofs.Opening
import DeferredViews.Proofs.Patience

/-!
# What a render puts together

A render finds its layout and its page, in the cache or in a file, and then runs the page in the
layout. What it comes to depends on these two templates and on the site it began on, but not on how
it came by them: what it reads, keeps and notes on the way is nothing that templates or helpers can
see, and takes no more stages than a render has.
-/
namespace DeferredViews.View

open Deferred Files Template

theorem helpers_pageText (r : Request) (registry : Nat) (layout : Option Wrapping)
    (page : Compiled) (s : Site) :
    (pageText r registry layout page s).2.activity.helpers = s.activity.helpers :=
  activity_pageText_keeps (P := fun a => a.helpers = s.activity.helpers)
    (fun a name i args kwargs ha => (helpers_putOff a _ name i args kwargs).trans ha)
    (fun _ _ _ ha => ha) r layout page rfl

/-- Where a layout is looked for. -/
structure Search where
  name : String
  roots : Except Fault (List Path)
  /-- The extension of the page. -/
  extension : String

/-- The file that is found, if any. -/
def Search.file? (files : Tree) (x : Search) : Except Fault (Option Path) :=
  x.roots.map (searchRoots files (.ofText (layoutFile x.name x.extension)))

/-- The view roots that options tell. -/
def rootsOf (options : Locals) : Except Fault (List Path) := do
  viewRoots ((← lookup? (settingsOf options) "views").getD .null)

/-- Where a render looks for a layout with some name. -/
def Request.search (r : Request) (options : Locals) (name : String) : Search :=
  ⟨name, rootsOf options, extension r.path⟩

/-- Where a render looks for its layout, if it is to have one. -/
def Request.search? (r : Request) (s : Site) : Option Search :=
  match LayoutDecision.ofOptions (s.optionsAt r.options) with
  | .ok decision => decision.name?.map (r.search (s.optionsAt r.options))
  | .error _ => none

namespace Site

/-- The layout that a render is to read: it wants one that is not in the cache, and finds its file. -/
structure ReadsLayout (s : Site) (r : Request) (x : Search) (path : Path) : Prop where
  search : r.search? s = some x
  uncached : (s.cacheOf r.engine).get? Space.layout.text x.name = none
  file : x.file? s.files = .ok (some path)

/-- Whether the options of a render ask for what it reads to be kept. -/
def caching (s : Site) (r : Request) : Bool :=
  ((s.optionsAt r.options).get? "cache").any Value.truthy

/-- The template of a file, as an engine compiles it now. -/
def template (s : Site) (e : Nat) (path : String) : Except Stop Compiled :=
  ((readTemplate path >>= compileFile e path) s).1

/-- The layout in the file that a render finds itself. -/
def foundLayout (s : Site) (r : Request) (decision : LayoutDecision) (name : String) :
    Except Stop (Option Wrapping) :=
  match (r.search (s.optionsAt r.options) name).file? s.files with
  | .error f => .error (.fault f)
  | .ok (some path) => (s.template r.engine path.text).map fun c => some ⟨name, c⟩
  | .ok none =>
    if decision ≠ .implicit then
      .error (.failure (.unreadable name ("Layout not found: " ++ name) none))
    else .ok none

/-- The layout of a render, in the cache or else found. -/
def layoutFor (s : Site) (r : Request) : Except Stop (Option Wrapping) :=
  match LayoutDecision.ofOptions (s.optionsAt r.options) with
  | .error f => .error (.fault f)
  | .ok decision =>
    match decision.name? with
    | none => .ok none
    | some name =>
      match (s.cacheOf r.engine).get? Space.layout.text name with
      | some c => .ok (some ⟨name, c⟩)
      | none => s.foundLayout r decision name

/-- How a render comes by its layout, or fails to. -/
inductive LayoutBy (s : Site) (r : Request) : Except Stop (Option Wrapping) → Prop
  | undecided {f : Fault} (hdecision : LayoutDecision.ofOptions (s.optionsAt r.options) = .error f) :
    LayoutBy s r (.error (.fault f))
  | unwanted {decision : LayoutDecision}
    (hdecision : LayoutDecision.ofOptions (s.optionsAt r.options) = .ok decision)
    (hname : decision.name? = none) : LayoutBy s r (.ok none)
  | kept {decision : LayoutDecision} {name : String} {c : Compiled}
    (hdecision : LayoutDecision.ofOptions (s.optionsAt r.options) = .ok decision)
    (hname : decision.name? = some name)
    (hget : (s.cacheOf r.engine).get? Space.layout.text name = some c) :
    LayoutBy s r (.ok (some ⟨name, c⟩))
  | fault {decision : LayoutDecision} {name : String} {f : Fault}
    (hdecision : LayoutDecision.ofOptions (s.optionsAt r.options) = .ok decision)
    (hname : decision.name? = some name)
    (hnew : (s.cacheOf r.engine).get? Space.layout.text name = none)
    (hfile : (r.search (s.optionsAt r.options) name).file? s.files = .error f) :
    LayoutBy s r (.error (.fault f))
  | missing {decision : LayoutDecision} {name : String}
    (hdecision : LayoutDecision.ofOptions (s.optionsAt r.options) = .ok decision)
    (hname : decision.name? = some name)
    (hnew : (s.cacheOf r.engine).get? Space.layout.text name = none)
    (hfile : (r.search (s.optionsAt r.options) name).file? s.files = .ok none) :
    LayoutBy s r (if decision ≠ .implicit then
      .error (.failure (.unreadable name ("Layout not found: " ++ name) none)) else .ok none)
  | found {decision : LayoutDecision} {name : String} {path : Path}
    (hdecision : LayoutDecision.ofOptions (s.optionsAt r.options) = .ok decision)
    (hname : decision.name? = some name)
    (hnew : (s.cacheOf r.engine).get? Space.layout.text name = none)
    (hfile : (r.search (s.optionsAt r.options) name).file? s.files = .ok (some path)) :
    LayoutBy s r ((s.template r.engine path.text).map fun c => some ⟨name, c⟩)

theorem layoutFor_by (s : Site) (r : Request) : s.LayoutBy r (s.layoutFor r) := by
  rw [layoutFor]
  cases hdecision : LayoutDecision.ofOptions (s.optionsAt r.options) with
  | error f => exact .undecided hdecision
  | ok decision =>
    dsimp only
    cases hname : decision.name? with
    | none => exact .unwanted hdecision hname
    | some name =>
      dsimp only
      cases hcache : (s.cacheOf r.engine).get? Space.layout.text name with
      | some c => exact .kept hdecision hname hcache
      | none =>
        dsimp only
        rw [foundLayout]
        cases hfile : (r.search (s.optionsAt r.options) name).file? s.files with
        | error f => exact .fault hdecision hname hcache hfile
        | ok found =>
          cases found with
          | none => exact .missing hdecision hname hcache hfile
          | some path => exact .found hdecision hname hcache hfile

/-- The page of a render, in the cache or else read. -/
def pageFor (s : Site) (r : Request) : Except Stop Compiled :=
  match (s.cacheOf r.engine).get? Space.file.text r.path with
  | some c => .ok c
  | none => s.template r.engine r.path

/-- What a render comes to with its page in its layout. -/
def printed (s : Site) (r : Request) (layout : Option Wrapping) (page : Compiled) :
    Except Stop String :=
  let x := Stage.after (runPage r s.activity.registries.length layout page s.opened)
  (runStages r (patience s) x.1 x.2).1.resultOrCancelled

end Site

/-- A site on which a render has read and kept templates, counted and noted, but done nothing else. -/
structure Site.Near (s t : Site) : Prop where
  files : t.files = s.files
  engines : ∀ d, (t.engine d).Alike (s.engine d) ∧ (t.engine d).globals = (s.engine d).globals
  options : t.options = s.options
  activity : t.activity = s.activity

theorem eq_ok_of_toOption {ε α : Type} {x : Except ε α} {a : α} (h : x.toOption = some a) :
    x = .ok a := by
  cases x with
  | error e => cases h
  | ok b => exact congrArg Except.ok (Option.some.inj h)

theorem Site.template_eq (s : Site) (e : Nat) (path : String) :
    s.template e path =
      match templateText s.files path with
      | .error stop => .error stop
      | .ok source =>
        match Template.compile (s.engine e).autoescape none source with
        | .ok t => .ok ⟨e, t⟩
        | .error f => .error (.failure (.template path f.message (some (.syntaxError f)))) := by
  rw [template, bind_apply, readTemplate_apply]
  cases templateText s.files path with
  | error stop => rfl
  | ok source =>
    dsimp only
    rw [Mirror.compileFile_apply]
    cases Template.compile (s.engine e).autoescape none source <;> rfl

theorem Site.template_congr {s t : Site} {e : Nat} (path : String) (hfiles : t.files = s.files)
    (hautoescape : (t.engine e).autoescape = (s.engine e).autoescape) :
    t.template e path = s.template e path := by
  rw [template_eq, template_eq, hfiles, hautoescape]

theorem Site.template_opened (s : Site) (e : Nat) (path : String) :
    s.opened.template e path = s.template e path :=
  template_congr path rfl rfl

section Congruence

variable {s t : Site} {r : Request} (hfiles : t.files = s.files)
  (hoptions : t.optionsAt r.options = s.optionsAt r.options)
  (hautoescape : (t.engine r.engine).autoescape = (s.engine r.engine).autoescape)

include hfiles hautoescape

theorem Site.pageFor_congr (hcache : t.cacheOf r.engine = s.cacheOf r.engine) :
    t.pageFor r = s.pageFor r := by
  rw [pageFor, pageFor, hcache, template_congr r.path hfiles hautoescape]

include hoptions

theorem Site.foundLayout_congr (decision : LayoutDecision) (name : String) :
    t.foundLayout r decision name = s.foundLayout r decision name := by
  have htemplate := fun path => template_congr path hfiles hautoescape
  rw [foundLayout, foundLayout, hoptions, hfiles]
  simp only [htemplate]

theorem Site.layoutFor_congr (hcache : t.cacheOf r.engine = s.cacheOf r.engine) :
    t.layoutFor r = s.layoutFor r := by
  have hfound := Site.foundLayout_congr hfiles hoptions hautoescape
  rw [layoutFor, layoutFor, hoptions, hcache]
  simp only [hfound]

end Congruence

namespace Site.Near

variable {s t : Site}

theorem refl (s : Site) : s.Near s := ⟨rfl, fun d => ⟨.refl (s.engine d), rfl⟩, rfl, rfl⟩

theorem log (h : s.Near t) (log : List Log.Record) : s.Near { t with log } := { h with }

theorem setCacheOf (h : s.Near t) (e : Nat) (c : Cache Compiled) : s.Near (t.setCacheOf e c) :=
  { h with }

theorem count (h : s.Near t) (e n : Nat) :
    s.Near (t.setEngine e { t.engine e with compiles := n }) := by
  refine { h with engines := fun d => ?_ }
  have ht := t.alike_setEngine (e := e) ⟨Engine.alike_compiles (t.engine e) n, rfl⟩ d
  exact ⟨ht.1.trans (h.engines d).1, ht.2.trans (h.engines d).2⟩

theorem optionsAt (h : s.Near t) (o : Nat) : t.optionsAt o = s.optionsAt o := by
  rw [Site.optionsAt, Site.optionsAt, h.options]

theorem template (h : s.Near t) (e : Nat) (path : String) :
    t.template e path = s.template e path :=
  template_congr path h.files (h.engines e).1.autoescape

theorem peers (h : s.Near t) {q : Nat} (hq : q < s.activity.registries.length) :
    Site.Peers q q t s where
  engines := h.engines
  options := h.options
  activity := by
    rw [h.activity]
    exact ⟨rfl, rfl, rfl, hq, hq⟩

end Site.Near

theorem Site.setEngine_engine (s : Site) (e : Nat) : s.setEngine e (s.engine e) = s := by
  by_cases hroom : e < s.engines.length
  · have hset : s.engines.set e (s.engine e) = s.engines := by
      simp [engine, hroom]
    rw [setEngine, hset]
  · rw [setEngine, List.set_eq_of_length_le (Nat.le_of_not_lt hroom)]

/-- Reading and compiling a file gives its template, and only counts. -/
theorem template_apply (s : Site) (e : Nat) (path : String) :
    ∃ n, (readTemplate path >>= compileFile e path) s =
      (s.template e path, s.setEngine e { s.engine e with compiles := n }) := by
  have hsite : ∃ n, ((readTemplate path >>= compileFile e path) s).2 =
      s.setEngine e { s.engine e with compiles := n } := by
    rw [bind_apply, readTemplate_apply]
    cases templateText s.files path with
    | error stop => exact ⟨(s.engine e).compiles, (s.setEngine_engine e).symm⟩
    | ok source =>
      dsimp only
      rw [Mirror.compileFile_apply]
      cases Template.compile (s.engine e).autoescape none source <;> exact ⟨_, rfl⟩
  obtain ⟨n, hn⟩ := hsite
  exact ⟨n, Prod.ext rfl hn⟩

/-- A look into the cache only leaves a note. -/
theorem cached?_apply (r : Request) (space : Space) (key : String) (s : Site) :
    ∃ log, cached? r space key s =
      (.ok ((s.cacheOf r.engine).get? space.text key), { s with log }) := by
  rw [cached?, bind_apply, get_apply]
  dsimp only
  cases (s.cacheOf r.engine).get? space.text key with
  | none => exact ⟨s.log, rfl⟩
  | some c => exact ⟨_, rfl⟩

/-- Keeping a template changes the cache alone. -/
theorem keep_apply (r : Request) (space : Space) (key : String) (c : Compiled) (s : Site) :
    ∃ log, keep r space key c s =
      (.ok (), { s.setCacheOf r.engine ((s.cacheOf r.engine).put space.text key c
        (s.caching r)).2 with log }) := by
  rw [keep, bind_apply, get_apply]
  dsimp only
  rw [bind_apply, set_apply]
  dsimp only
  split
  · exact ⟨_, rfl⟩
  · exact ⟨s.log, rfl⟩

theorem get?_put_of_ne {c : Cache Compiled} {space key space' key' : String} (a : Compiled)
    (enabled : Bool) (h : (space', key') ≠ (space, key)) :
    (c.put space key a enabled).2.get? space' key' = c.get? space' key' := by
  cases enabled with
  | true => exact c.get?_insert_of_ne a h
  | false => rfl

/-- Keeping a template leaves what is kept under other keys alone. -/
theorem Site.get?_put_of_ne (s : Site) (e : Nat) {space key space' key' : String} (c : Compiled)
    (enabled : Bool) (h : (space', key') ≠ (space, key)) :
    ((s.setCacheOf e ((s.cacheOf e).put space key c enabled).2).cacheOf e).get? space' key' =
      (s.cacheOf e).get? space' key' := by
  rcases s.cacheOf_setCacheOf e ((s.cacheOf e).put space key c enabled).2 with hcache | hcache
  · exact (congrArg (·.get? space' key') hcache).trans (View.get?_put_of_ne c enabled h)
  · exact congrArg (·.get? space' key') hcache

theorem Site.cacheOf_count (s : Site) (e n : Nat) :
    (s.setEngine e { s.engine e with compiles := n }).cacheOf e = s.cacheOf e := by
  refine s.cacheOf_setEngine ?_ e
  rfl

/-- Pages and layouts are kept in spaces of their own. -/
theorem Space.file_ne_layout (page layout : String) :
    (Space.file.text, page) ≠ (Space.layout.text, layout) := by
  intro heq
  exact absurd (Prod.mk.inj heq).1 (by decide)

theorem findLayout_map (files : Tree) (name : String) (views : Value) (extension : String) :
    (findLayout files name views extension).map (·.1) =
      (viewRoots views).map (searchRoots files (.ofText (layoutFile name extension))) := by
  rw [findLayout]
  cases viewRoots views with
  | error f => rfl
  | ok roots =>
    dsimp only [bind, Except.bind, Except.map]
    cases searchRoots files (.ofText (layoutFile name extension)) roots <;> rfl

/-- Where a layout is found. The settings are read before the roots: a fault of either comes before
any search. -/
theorem Request.file?_search (r : Request) (files : Tree) (options : Locals) (name : String) :
    (r.search options name).file? files =
      (lookup? (settingsOf options) "views").bind fun views =>
        (findLayout files name (views.getD .null) (extension r.path)).map (·.1) := by
  rw [Search.file?, search, rootsOf]
  cases lookup? (settingsOf options) "views" with
  | error f => rfl
  | ok views => exact (findLayout_map files name (views.getD .null) (extension r.path)).symm

/-- Once its templates are read, a render needs little more stages than its slowest helper. -/
theorem settlesIn_runPage (r : Request) (q : Nat) (layout : Option Wrapping) (page : Compiled)
    (s : Site) :
    SettlesIn r (slowest s.activity.helpers + 4) (Stage.after (runPage r q layout page s)) := by
  have hhelpers := helpers_pageText r q layout page s
  obtain ⟨e, t, htext, hafter⟩ | ⟨html, t, log, htext, -, hafter⟩ |
    ⟨html, t, f, htext, -, -, hafter⟩ | ⟨html, t, deadline, htext, -, -, hafter⟩ :=
      after_runPage_cases r q layout page s
  all_goals rw [hafter]
  · exact .ended r _ _ t
  · exact .ended r _ _ _
  · exact .ended r _ _ _
  · rw [htext] at hhelpers
    rw [← hhelpers]
    exact settlesIn_ofPending r q html _ { t with activity := (t.activity.takePending q).2 }

/-- Reading the page is reading and compiling it, keeping it, and running it. -/
theorem work_readingPage (r : Request) (q : Nat) (layout : Option Wrapping) :
    Stage.work r (.readingPage q layout) =
      (readTemplate r.path >>= compileFile r.engine r.path) >>= fun c =>
        keep r .file r.path c >>= fun _ => runPage r q layout c := by
  rw [bind_assoc]
  rfl

theorem work_readingLayout (r : Request) (q : Nat) (name : String) (path : Path) :
    Stage.work r (.readingLayout q name path) =
      (readTemplate path.text >>= compileFile r.engine path.text) >>= fun c =>
        keep r .layout name c >>= fun _ => startPage r q (some ⟨name, c⟩) := by
  rw [bind_assoc]
  rfl

theorem Site.printed_of_peers {s t : Site}
    (h : Site.Peers t.activity.registries.length s.activity.registries.length t.opened s.opened)
    (r : Request) (layout : Option Wrapping) (page : Compiled) :
    t.printed r layout page = s.printed r layout page := by
  have hhelpers : t.activity.helpers = s.activity.helpers := h.activity.helpers
  have hpatience : patience t = patience s := by
    rw [patience_eq_slowest, patience_eq_slowest, hhelpers]
  rw [printed, printed, hpatience]
  exact ((h.runPage r layout page).runStages r (patience s)).resultOrCancelled

section Front

variable {r : Request} {s u : Site}

theorem comesTo_runPage (h : s.opened.Near u) (layout : Option Wrapping) (page : Compiled) :
    ComesTo r (slowest s.activity.helpers + 4)
      (Stage.after (runPage r s.activity.registries.length layout page u))
      (s.printed r layout page) := by
  have hpatience : slowest s.activity.helpers + 4 ≤ patience s := by
    rw [patience_eq_slowest]
    omega
  obtain ⟨result, hresult⟩ :=
    settlesIn_runPage r s.activity.registries.length layout page s.opened
  have hprinted : s.printed r layout page = result := hresult _ hpatience
  -- `printed` runs on the site as it was, so the two renders are compared stage by stage.
  intro m hm
  have hlevel := ((h.peers s.room_opened).runPage r layout page).runStages r m
  rw [hlevel.resultOrCancelled, hprinted]
  exact hresult m hm

theorem comesTo_keep (h : s.opened.Near u) (space : Space) (key : String) (c : Compiled)
    {n : Nat} {result : Except Stop String} {f : Unit → Work Stage}
    (hnext : ∀ t, s.opened.Near t →
      (∀ space' key', (space', key') ≠ (space.text, key) →
        (t.cacheOf r.engine).get? space' key' = (u.cacheOf r.engine).get? space' key') →
      ComesTo r n (Stage.after (f () t)) result) :
    ComesTo r n (Stage.after ((keep r space key c >>= f) u)) result := by
  obtain ⟨log, hkeep⟩ := keep_apply r space key c u
  rw [after_bind_apply, hkeep]
  exact hnext _ ((h.setCacheOf _ _).log log) fun _ _ hne =>
    u.get?_put_of_ne r.engine c (u.caching r) hne

theorem comesTo_startPage (h : s.opened.Near u)
    (hpage : (u.cacheOf r.engine).get? Space.file.text r.path =
      (s.cacheOf r.engine).get? Space.file.text r.path) (layout : Option Wrapping) :
    ComesTo r (slowest s.activity.helpers + 5)
      (Stage.after (startPage r s.activity.registries.length layout u))
      ((s.pageFor r).bind (s.printed r layout)) := by
  obtain ⟨log, hcached⟩ := cached?_apply r .file r.path u
  rw [startPage, after_bind_apply, hcached, hpage, Site.pageFor]
  cases (s.cacheOf r.engine).get? Space.file.text r.path with
  | some c => exact (comesTo_runPage (h.log log) layout c).mono (Nat.le_succ _)
  | none =>
    show ComesTo r _ (.readingPage s.activity.registries.length layout, { u with log }) _
    refine ComesTo.succ ?_ rfl
    obtain ⟨n, htemplate⟩ := template_apply { u with log } r.engine r.path
    rw [Stage.step_eq, work_readingPage, after_bind_apply, htemplate,
      (h.log log).template r.engine r.path, Site.template_opened]
    cases s.template r.engine r.path with
    | error stop => exact .ended r _ _ _
    | ok c =>
      exact comesTo_keep ((h.log log).count r.engine n) .file r.path c fun v hv _ =>
        comesTo_runPage hv layout c

/-- Where a search for a layout leads that is not in the cache. -/
theorem startLayout_search (r : Request) (q : Nat) (decision : LayoutDecision) (name : String)
    (hcache : (u.cacheOf r.engine).get? Space.layout.text name = none) :
    ∃ log log', Stage.after (startLayout r q decision name u) =
      match (r.search (u.optionsAt r.options) name).file? u.files with
      | .error f => (.ended (.error (.fault f)), { u with log })
      | .ok (some path) => (.readingLayout q name path, { u with log })
      | .ok none =>
        if decision ≠ .implicit then
          (.ended (.error (.failure (.unreadable name ("Layout not found: " ++ name) none))),
            { u with log })
        else Stage.after (startPage r q none { u with log := log' }) := by
  obtain ⟨log, hcached⟩ := cached?_apply r .layout name u
  rw [startLayout, after_bind_apply, hcached, hcache, r.file?_search]
  dsimp only
  rw [after_bind_apply, get_apply]
  dsimp only
  have hoptions : Site.optionsAt { u with log } r.options = u.optionsAt r.options := rfl
  rw [after_bind_apply, hoptions]
  cases lookup? (settingsOf (u.optionsAt r.options)) "views" with
  | error f => exact ⟨log, log, rfl⟩
  | ok views =>
    rw [orFault, pure_apply]
    dsimp only [Except.bind]
    rw [after_bind_apply]
    cases findLayout u.files name (views.getD .null) (extension r.path) with
    | error f => exact ⟨log, log, rfl⟩
    | ok found =>
      obtain ⟨_ | path, record⟩ := found
      · by_cases himplicit : decision = .implicit
        · subst himplicit
          exact ⟨log, _, rfl⟩
        · refine ⟨log ++ [record], log, ?_⟩
          dsimp only [Except.map]
          rw [if_pos himplicit, orFault, pure_apply]
          dsimp only
          rw [after_bind_apply, note_apply, if_pos himplicit]
          rfl
      · exact ⟨_, log, rfl⟩

/-- How a render opens: it ends for want of a layout, goes on with its page, or is about to read its
layout. -/
inductive Opens (r : Request) (s : Site) : Stage × Site → Prop
  | undecided {e : Stop} (hlayout : s.layoutFor r = .error e)
      (hnone : ∀ x path, ¬ s.ReadsLayout r x path) :
    Opens r s (.ended (.error e), s)
  | wanting {e : Stop} (log : List Log.Record) (hlayout : s.layoutFor r = .error e)
      (hnone : ∀ x path, ¬ s.ReadsLayout r x path) :
    Opens r s (.ended (.error e), { s.opened with log })
  | page {layout : Option Wrapping} (log : List Log.Record) (hlayout : s.layoutFor r = .ok layout)
      (hnone : ∀ x path, ¬ s.ReadsLayout r x path) :
    Opens r s (Stage.after (startPage r s.activity.registries.length layout { s.opened with log }))
  | layout {x : Search} {path : Path} (log : List Log.Record) (h : s.ReadsLayout r x path) :
    Opens r s (.readingLayout s.activity.registries.length x.name path, { s.opened with log })

/-- A render without a layout to look for reads none. -/
theorem Site.not_readsLayout_of_search? (h : r.search? s = none) (x : Search) (path : Path) :
    ¬ s.ReadsLayout r x path := by
  intro hreads
  cases h.symm.trans hreads.search

theorem Site.not_readsLayout {x : Search} (hsearch : r.search? s = some x)
    (h : (s.cacheOf r.engine).get? Space.layout.text x.name = none →
      ∀ path, x.file? s.files ≠ .ok (some path)) (y : Search) (path : Path) :
    ¬ s.ReadsLayout r y path := by
  intro hreads
  obtain rfl := Option.some.inj (hsearch.symm.trans hreads.search)
  exact h hreads.uncached path hreads.file

section Wanted

variable {decision : LayoutDecision} {name : String}
  (hdecision : LayoutDecision.ofOptions (s.optionsAt r.options) = .ok decision)
  (hname : decision.name? = some name)

include hdecision hname

theorem search?_of_name? : r.search? s = some (r.search (s.optionsAt r.options) name) := by
  rw [Request.search?, hdecision]
  exact congrArg (Option.map _) hname

theorem Site.layoutFor_of_get? {c : Compiled}
    (hget : (s.cacheOf r.engine).get? Space.layout.text name = some c) :
    s.layoutFor r = .ok (some ⟨name, c⟩) := by
  rw [layoutFor, hdecision]
  dsimp only
  rw [hname]
  dsimp only
  rw [hget]

theorem Site.layoutFor_of_new (hnew : (s.cacheOf r.engine).get? Space.layout.text name = none) :
    s.layoutFor r = s.foundLayout r decision name := by
  rw [layoutFor, hdecision]
  dsimp only
  rw [hname]
  dsimp only
  rw [hnew]

theorem opens_startLayout :
    Opens r s (Stage.after (startLayout r s.activity.registries.length decision name s.opened)) := by
  have hsearch := search?_of_name? hdecision hname
  cases hcache : (s.cacheOf r.engine).get? Space.layout.text name with
  | some c =>
    have hnone := Site.not_readsLayout hsearch fun hnew => absurd (hcache.symm.trans hnew) nofun
    have hsame : s.opened.cacheOf r.engine = s.cacheOf r.engine := rfl
    obtain ⟨log, hcached⟩ := cached?_apply r .layout name s.opened
    rw [startLayout, after_bind_apply, hcached, hsame, hcache]
    exact .page log (Site.layoutFor_of_get? hdecision hname hcache) hnone
  | none =>
    have hlayout := Site.layoutFor_of_new hdecision hname hcache
    have hfile : (r.search (s.opened.optionsAt r.options) name).file? s.opened.files =
        (r.search (s.optionsAt r.options) name).file? s.files := rfl
    obtain ⟨log, log', hfound⟩ :=
      startLayout_search r s.activity.registries.length decision name (u := s.opened) hcache
    rw [hfound, hfile]
    rw [Site.foundLayout] at hlayout
    cases hpath : (r.search (s.optionsAt r.options) name).file? s.files with
    | error f =>
      rw [hpath] at hlayout
      exact .wanting log hlayout
        (Site.not_readsLayout hsearch fun _ path hfile => absurd (hpath.symm.trans hfile) nofun)
    | ok found =>
      cases found with
      | some path => exact .layout log ⟨hsearch, hcache, hpath⟩
      | none =>
        have hnone :=
          Site.not_readsLayout hsearch fun _ path hfile => absurd (hpath.symm.trans hfile) nofun
        rw [hpath] at hlayout
        dsimp only at hlayout ⊢
        by_cases himplicit : decision ≠ .implicit
        · rw [if_pos himplicit] at hlayout ⊢
          exact .wanting log hlayout hnone
        · rw [if_neg himplicit] at hlayout ⊢
          exact .page log' hlayout hnone

end Wanted

theorem step_opens (r : Request) (s : Site) : Opens r s (Stage.step r .opening s) := by
  rw [step_opening]
  cases hdecision : LayoutDecision.ofOptions (s.optionsAt r.options) with
  | error f =>
    have hsearch : r.search? s = none := by rw [Request.search?, hdecision]
    have hlayout : s.layoutFor r = .error (.fault f) := by rw [Site.layoutFor, hdecision]
    exact .undecided hlayout (Site.not_readsLayout_of_search? hsearch)
  | ok decision =>
    cases hname : decision.name? with
    | none =>
      have hsearch : r.search? s = none := by
        rw [Request.search?, hdecision]
        exact congrArg (Option.map _) hname
      have hlayout : s.layoutFor r = .ok none := by
        rw [Site.layoutFor, hdecision]
        dsimp only
        rw [hname]
      dsimp only
      rw [hname]
      exact .page s.log hlayout (Site.not_readsLayout_of_search? hsearch)
    | some name =>
      dsimp only
      rw [hname]
      exact opens_startLayout hdecision hname

/-- The layout of a render that is to read it. -/
theorem Site.ReadsLayout.layoutFor {x : Search} {path : Path} (h : s.ReadsLayout r x path) :
    s.layoutFor r = (s.template r.engine path.text).map fun c => some ⟨x.name, c⟩ := by
  have hsearch := h.search
  rw [Request.search?] at hsearch
  cases hdecision : LayoutDecision.ofOptions (s.optionsAt r.options) with
  | error f =>
    rw [hdecision] at hsearch
    cases hsearch
  | ok decision =>
    rw [hdecision] at hsearch
    obtain ⟨name, hname, rfl⟩ := Option.map_eq_some_iff.mp hsearch
    rw [Site.layoutFor_of_new hdecision hname h.uncached, Site.foundLayout, h.file]
    rfl

theorem Site.ReadsLayout.step {x : Search} {path : Path} (h : s.ReadsLayout r x path) :
    ∃ log, Stage.step r .opening s =
      (.readingLayout s.activity.registries.length x.name path, { s.opened with log }) := by
  have hopens := step_opens r s
  generalize Stage.step r .opening s = y at hopens ⊢
  cases hopens with
  | undecided _ hnone => exact absurd h (hnone x path)
  | wanting _ _ hnone => exact absurd h (hnone x path)
  | page _ _ hnone => exact absurd h (hnone x path)
  | layout log h' =>
    obtain rfl := Option.some.inj (h'.search.symm.trans h.search)
    cases h'.file.symm.trans h.file
    exact ⟨log, rfl⟩

/-- A layout that was found is read, kept, and the page follows. -/
theorem comesTo_readingLayout (h : s.opened.Near u)
    (hcache : u.cacheOf r.engine = s.cacheOf r.engine) (name : String) (path : Path) :
    ComesTo r (slowest s.activity.helpers + 6)
      (.readingLayout s.activity.registries.length name path, u)
      (((s.template r.engine path.text).map fun c => some ⟨name, c⟩).bind fun layout =>
        (s.pageFor r).bind (s.printed r layout)) := by
  refine ComesTo.succ ?_ rfl
  obtain ⟨n, htemplate⟩ := template_apply u r.engine path.text
  rw [Stage.step_eq, work_readingLayout, after_bind_apply, htemplate, h.template r.engine path.text,
    Site.template_opened]
  cases s.template r.engine path.text with
  | error stop => exact .ended r _ _ _
  | ok c =>
    refine comesTo_keep (h.count r.engine n) .layout name c fun v hv hentries => ?_
    -- The layout is kept under a key of its own space, which leaves the entry of the page alone.
    refine comesTo_startPage hv ?_ (some ⟨name, c⟩)
    rw [hentries _ _ (Space.file_ne_layout r.path name), u.cacheOf_count, hcache]

/-- A render comes to what its page comes to in its layout, or to what keeps it from having them. -/
theorem comesTo_opening (r : Request) (s : Site) :
    ComesTo r (slowest s.activity.helpers + 7) (.opening, s)
      ((s.layoutFor r).bind fun layout => (s.pageFor r).bind (s.printed r layout)) := by
  refine ComesTo.succ ?_ rfl
  have hopens := step_opens r s
  generalize Stage.step r .opening s = y at hopens ⊢
  cases hopens with
  | undecided hlayout =>
    rw [hlayout]
    exact .ended r _ _ _
  | wanting log hlayout =>
    rw [hlayout]
    exact .ended r _ _ _
  | page log hlayout =>
    rw [hlayout]
    exact (comesTo_startPage ((Site.Near.refl s.opened).log log) rfl _).mono (Nat.le_succ _)
  | layout log hreads =>
    rw [hreads.layoutFor]
    exact comesTo_readingLayout ((Site.Near.refl s.opened).log log) rfl _ _

theorem render_eq (r : Request) (s : Site) :
    (render r s).1 =
      (s.layoutFor r).bind fun layout => (s.pageFor r).bind (s.printed r layout) := by
  refine comesTo_opening r s (patience s) ?_
  rw [patience_eq_slowest]
  omega

/-- A render without a layout reads its page if the page is not in the cache. -/
theorem render_without_layout {r : Request} {s : Site}
    (hlayout : LayoutDecision.ofOptions (s.optionsAt r.options) = .ok .without)
    (hcache : (s.cacheOf r.engine).get? Space.file.text r.path = none) :
    (render r s).1 = (s.template r.engine r.path).bind (s.printed r none) := by
  rw [render_eq, Site.layoutFor, hlayout]
  show (s.pageFor r).bind (s.printed r none) = _
  rw [Site.pageFor, hcache]

/-- On sites with the same templates that it cannot tell apart, a render comes to the same. -/
theorem render_of_peers {s t : Site}
    (h : Site.Peers t.activity.registries.length s.activity.registries.length t.opened s.opened)
    (r : Request) (hfiles : t.files = s.files)
    (hcache : t.cacheOf r.engine = s.cacheOf r.engine) : (render r t).1 = (render r s).1 := by
  have hautoescape : (t.engine r.engine).autoescape = (s.engine r.engine).autoescape :=
    (h.engines r.engine).1.autoescape
  have hoptions : t.optionsAt r.options = s.optionsAt r.options := h.optionsAt r.options
  rw [render_eq, render_eq, Site.layoutFor_congr hfiles hoptions hautoescape hcache,
    Site.pageFor_congr hfiles hautoescape hcache]
  congr 1
  funext layout
  congr 1
  funext page
  exact Site.printed_of_peers h r layout page

end Front

end DeferredViews.View
