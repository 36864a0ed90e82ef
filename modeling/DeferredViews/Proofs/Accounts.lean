import DeferredViews.Proofs.LayoutChoice
import DeferredViews.Proofs.Registration

/-!
# What renders compile and what a cache keeps

A render compiles at most two sources, that of its layout and that of its page: each only if the
template is wanted and not cached, and if its file is found and can be read. What it compiles is
kept if its options ask for that, under a key that was free. Nothing is replaced, and nothing leaves
a cache until it is cleared.
-/
namespace DeferredViews.View

open Deferred Files Template

/-- A source that a render compiles, and the key that its template is kept under. -/
structure Reading where
  space : Space
  key : String
  source : String
  deriving DecidableEq, Repr

/-- How many stages a render has at most before it has read its templates. -/
def Stage.ahead : Stage → Nat
  | .opening => 3
  | .readingLayout .. => 2
  | .readingPage .. => 1
  | .settling .. | .ended _ => 0

/-- To run a page takes no more templates. -/
theorem ahead_runPage (r : Request) (q : Nat) (layout : Option Wrapping) (page : Compiled)
    (s : Site) : (Stage.after (runPage r q layout page s)).1.ahead = 0 := by
  obtain ⟨stop, t, -, hafter⟩ | ⟨html, t, log, -, -, hafter⟩ | ⟨html, t, f, -, -, -, hafter⟩ |
    ⟨html, t, deadline, -, -, -, hafter⟩ := after_runPage_cases r q layout page s
  all_goals
    rw [hafter]
    rfl

namespace Site

/-- The source in a file, if it can be read, for a template that is to be kept under a key. -/
def readingOf (s : Site) (space : Space) (key path : String) : Option Reading :=
  (templateText s.files path).toOption.map fun source => ⟨space, key, source⟩

/-- The source that a render compiles for its layout. -/
def layoutReading? (s : Site) (r : Request) : Option Reading :=
  match r.search? s with
  | none => none
  | some x =>
    match (s.cacheOf r.engine).get? Space.layout.text x.name, x.file? s.files with
    | none, .ok (some path) => s.readingOf .layout x.name path.text
    | _, _ => none

/-- The source that a render compiles for its page; none if it does not come to have its layout. -/
def pageReading? (s : Site) (r : Request) : Option Reading :=
  match s.layoutFor r, (s.cacheOf r.engine).get? Space.file.text r.path with
  | .ok _, none => s.readingOf .file r.path r.path
  | _, _ => none

/-- The sources that a render compiles, in order. -/
def readings (s : Site) (r : Request) : List Reading :=
  (s.layoutReading? r).toList ++ (s.pageReading? r).toList

/-- The entry of a source in the cache of an engine, if it can be compiled. -/
def entryOf (s : Site) (e : Nat) (x : Reading) : Option ((String × String) × Compiled) :=
  (Template.compile (s.engine e).autoescape none x.source).toOption.map fun t =>
    ((x.space.text, x.key), ⟨e, t⟩)

/-- The entries that a render keeps of the sources that it compiles. -/
def kept (s : Site) (r : Request) (xs : List Reading) : List ((String × String) × Compiled) :=
  if s.caching r then xs.filterMap (s.entryOf r.engine) else []

/-- The engine is there, and so is its cache. -/
structure Houses (s : Site) (e : Nat) : Prop where
  engine : e < s.engines.length
  cache : (s.engine e).cache < s.caches.length

/-- Between two sites, an engine compiled so many sources, and these entries came to its cache. -/
structure Booked (s : Site) (e n : Nat) (new : List ((String × String) × Compiled)) (t : Site) :
    Prop where
  compiles : (t.engine e).compiles = (s.engine e).compiles + n
  entries : (t.cacheOf e).entries = (s.cacheOf e).entries ++ new
  houses : t.Houses e

theorem Near.trans {s t u : Site} (h : s.Near t) (k : t.Near u) : s.Near u where
  files := k.files.trans h.files
  engines d := ⟨(k.engines d).1.trans (h.engines d).1, (k.engines d).2.trans (h.engines d).2⟩
  options := k.options.trans h.options
  activity := k.activity.trans h.activity

theorem kept_append (s : Site) (r : Request) (xs ys : List Reading) :
    s.kept r (xs ++ ys) = s.kept r xs ++ s.kept r ys := by
  rw [kept, kept, kept]
  split
  · exact List.filterMap_append
  · rfl

@[simp] theorem kept_nil (s : Site) (r : Request) : s.kept r [] = [] := by
  rw [kept]
  split <;> rfl

theorem kept_singleton (s : Site) (r : Request) (x : Reading) :
    s.kept r [x] = if s.caching r then (s.entryOf r.engine x).toList else [] := by
  rw [kept]
  split
  · rw [List.filterMap_cons, List.filterMap_nil]
    cases s.entryOf r.engine x <;> rfl
  · rfl

theorem kept_congr {s t : Site} {r : Request} (hcaching : t.caching r = s.caching r)
    (hautoescape : (t.engine r.engine).autoescape = (s.engine r.engine).autoescape)
    (xs : List Reading) : t.kept r xs = s.kept r xs := by
  have hentry : t.entryOf r.engine = s.entryOf r.engine := by
    funext x
    rw [entryOf, entryOf, hautoescape]
  rw [kept, kept, hcaching, hentry]

namespace Booked

variable {s t u : Site} {e n m : Nat} {new more : List ((String × String) × Compiled)}

theorem refl (h : s.Houses e) : s.Booked e 0 [] s := ⟨rfl, (List.append_nil _).symm, h⟩

theorem trans (h : s.Booked e n new t) (k : t.Booked e m more u) :
    s.Booked e (n + m) (new ++ more) u where
  compiles := by rw [k.compiles, h.compiles, Nat.add_assoc]
  entries := by rw [k.entries, h.entries, List.append_assoc]
  houses := k.houses

/-- Files, options, helpers and the log are in no book. -/
theorem aside (h : s.Booked e n new t) (files : Tree) (options : List Locals) (activity : Activity)
    (log : List Log.Record) : s.Booked e n new { t with files, options, activity, log } :=
  ⟨h.compiles, h.entries, h.houses.engine, h.houses.cache⟩

/-- An engine may change in what it is not booked for. -/
theorem setEngine (h : s.Booked e n new t) {i : Nat} {d : Engine}
    (hcompiles : d.compiles = (t.engine i).compiles) (hcache : d.cache = (t.engine i).cache) :
    s.Booked e n new (t.setEngine i d) := by
  have hsame : ((t.setEngine i d).engine e).compiles = (t.engine e).compiles ∧
      ((t.setEngine i d).engine e).cache = (t.engine e).cache := by
    by_cases hne : i = e
    · subst hne
      rw [t.engine_setEngine_self i d h.houses.engine]
      exact ⟨hcompiles, hcache⟩
    · rw [t.engine_setEngine_of_ne d hne]
      exact ⟨rfl, rfl⟩
  have hlength : (t.setEngine i d).engines.length = t.engines.length := List.length_set
  refine ⟨hsame.1.trans h.compiles, ?_, hlength ▸ h.houses.engine, hsame.2 ▸ h.houses.cache⟩
  rw [t.cacheOf_setEngine hcache e]
  exact h.entries

theorem count (h : t.Houses e) :
    t.Booked e 1 [] (t.setEngine e { t.engine e with compiles := (t.engine e).compiles + 1 }) := by
  have hself := t.engine_setEngine_self e
    { t.engine e with compiles := (t.engine e).compiles + 1 } h.engine
  have hlength : (t.setEngine e { t.engine e with
      compiles := (t.engine e).compiles + 1 }).engines.length = t.engines.length := List.length_set
  refine ⟨congrArg Engine.compiles hself, ?_, hlength ▸ h.engine, ?_⟩
  · rw [t.cacheOf_count, List.append_nil]
  · rw [congrArg Engine.cache hself]
    exact h.cache

theorem put (h : t.Houses e) {space key : String} (hnew : (t.cacheOf e).get? space key = none)
    (c : Compiled) (enabled : Bool) :
    t.Booked e 0 (if enabled then [((space, key), c)] else [])
      (t.setCacheOf e ((t.cacheOf e).put space key c enabled).2) := by
  have hentries : ((t.cacheOf e).put space key c enabled).2.entries =
      (t.cacheOf e).entries ++ if enabled then [((space, key), c)] else [] := by
    cases enabled with
    | true => simp [Cache.put, Cache.insert, hnew]
    | false => simp [Cache.put]
  have hlength : (t.setCacheOf e ((t.cacheOf e).put space key c enabled).2).caches.length =
      t.caches.length := List.length_set
  refine ⟨rfl, ?_, h.engine, hlength ▸ h.cache⟩
  rw [t.cacheOf_setCacheOf_self _ h.cache]
  exact hentries

/-- To load an included template is no compilation that is counted. -/
theorem load (h : s.Booked e n new t) (i : Nat) (name : String) :
    s.Booked e n new (loadFor i name t).2 := by
  rw [loadFor]
  cases hload : (t.engine i).load name with
  | error f => exact h
  | ok x =>
    obtain ⟨d, found⟩ := x
    rcases Engine.load_cases hload with rfl | ⟨l, rfl, -, -⟩
    · exact h.setEngine rfl rfl
    · exact h.setEngine rfl rfl

theorem runPage (h : s.Booked e n new t) (r : Request) (q : Nat) (layout : Option Wrapping)
    (page : Compiled) : s.Booked e n new (Stage.after (View.runPage r q layout page t)).2 :=
  runPage_keeps (fun u options activity log hu => hu.aside u.files options activity log)
    (fun i name _ hu => hu.load i name) r q layout page h

/-- A render that has read its templates compiles and keeps nothing more. -/
theorem step (h : s.Booked e n new t) (r : Request) {stage : Stage} (hahead : stage.ahead = 0) :
    s.Booked e n new (stage.step r t).2 ∧ (stage.step r t).1.ahead = 0 := by
  cases stage with
  | opening => cases hahead
  | readingLayout q name path => cases hahead
  | readingPage q layout => cases hahead
  | ended x => exact ⟨h, rfl⟩
  | settling q page rounds w =>
    obtain ⟨x, activity, log, hstep⟩ | ⟨v, activity, hstep⟩ :=
      step_settling_site (s := t) r page q rounds w
    · rw [hstep]
      exact ⟨h.aside t.files t.options activity log, rfl⟩
    · rw [hstep]
      exact ⟨h.aside t.files t.options activity t.log, rfl⟩

end Booked
end Site

/-! ## Reading a template -/

/-- Reading and compiling a file, to the last count. -/
theorem readAndCompile_apply (t : Site) (e : Nat) (path : String) :
    (readTemplate path >>= compileFile e path) t =
      (t.template e path,
        match templateText t.files path with
        | .error _ => t
        | .ok _ => t.setEngine e { t.engine e with compiles := (t.engine e).compiles + 1 }) := by
  refine Prod.ext rfl ?_
  rw [bind_apply, readTemplate_apply]
  cases templateText t.files path with
  | error stop => rfl
  | ok source =>
    dsimp only
    rw [Mirror.compileFile_apply]
    cases Template.compile (t.engine e).autoescape none source <;> rfl

/-- A compiled template is kept under a free key, and the render goes on with it. -/
theorem after_keep {r : Request} {t : Site} (h : t.Houses r.engine) {space : Space} {key : String}
    (hnew : (t.cacheOf r.engine).get? space.text key = none) (c : Compiled)
    (f : Compiled → Work Stage) :
    ∃ u, t.Near u ∧
      t.Booked r.engine 0 (if t.caching r then [((space.text, key), c)] else []) u ∧
      (∀ space' key', (space', key') ≠ (space.text, key) →
        (u.cacheOf r.engine).get? space' key' = (t.cacheOf r.engine).get? space' key') ∧
      Stage.after ((keep r space key c >>= fun _ => f c) t) = Stage.after (f c u) := by
  have hput := Site.Booked.put h hnew c (t.caching r)
  have hnear := (Site.Near.refl t).setCacheOf r.engine
    ((t.cacheOf r.engine).put space.text key c (t.caching r)).2
  have hothers := fun space' key' (hne : (space', key') ≠ (space.text, key)) =>
    t.get?_put_of_ne r.engine c (t.caching r) hne
  obtain ⟨log, hkeep⟩ := keep_apply r space key c t
  generalize t.setCacheOf r.engine _ = u at hput hnear hothers hkeep
  refine ⟨{ u with log }, hnear.log log, hput.aside u.files u.options u.activity log, hothers, ?_⟩
  rw [after_bind_apply, hkeep]

/-- A template is read, compiled and kept under a free key: the render goes on with it, or ends
for want of it. -/
theorem after_readAndKeep {r : Request} {t : Site} (h : t.Houses r.engine) {space : Space}
    {key : String} (hnew : (t.cacheOf r.engine).get? space.text key = none) (path : String)
    (f : Compiled → Work Stage) :
    ∃ u, t.Near u ∧
      t.Booked r.engine (t.readingOf space key path).toList.length
        (t.kept r (t.readingOf space key path).toList) u ∧
      (∀ space' key', (space', key') ≠ (space.text, key) →
        (u.cacheOf r.engine).get? space' key' = (t.cacheOf r.engine).get? space' key') ∧
      Stage.after (((readTemplate path >>= compileFile r.engine path) >>= fun c =>
          keep r space key c >>= fun _ => f c) t) =
        match t.template r.engine path with
        | .ok c => Stage.after (f c u)
        | .error stop => (.ended (.error stop), u) := by
  rw [after_bind_apply, readAndCompile_apply, Site.readingOf, Site.template_eq]
  cases templateText t.files path with
  | error stop => exact ⟨t, .refl t, (t.kept_nil r).symm ▸ .refl h, fun _ _ _ => rfl, rfl⟩
  | ok source =>
    have hcounted := Site.Booked.count h
    have hnear := (Site.Near.refl t).count r.engine ((t.engine r.engine).compiles + 1)
    have hcache := t.cacheOf_count r.engine ((t.engine r.engine).compiles + 1)
    dsimp only [Except.toOption, Option.map_some, Option.toList]
    generalize t.setEngine r.engine _ = v at hcounted hnear hcache ⊢
    rw [t.kept_singleton, Site.entryOf]
    cases Template.compile (t.engine r.engine).autoescape none source with
    | error fault =>
      refine ⟨v, hnear, ?_, fun _ _ _ => by rw [hcache], rfl⟩
      split <;> exact hcounted
    | ok template =>
      have hcaching : v.caching r = t.caching r := by
        rw [Site.caching, Site.caching, hnear.optionsAt]
      obtain ⟨u, hu, hkept, hothers, hafter⟩ :=
        after_keep hcounted.houses (hcache ▸ hnew) ⟨r.engine, template⟩ f
      rw [hcaching] at hkept
      rw [hcache] at hothers
      exact ⟨u, hnear.trans hu, hcounted.trans hkept, hothers, hafter⟩

/-! ## A render stage by stage -/

/-- A render that finds no layout to read compiles none. -/
theorem layoutReading?_eq_none {r : Request} {s : Site} (h : ∀ x path, ¬ s.ReadsLayout r x path) :
    s.layoutReading? r = none := by
  rw [Site.layoutReading?]
  cases hsearch : r.search? s with
  | none => rfl
  | some x =>
    dsimp only
    split
    · next path hnew hfile => exact absurd ⟨hsearch, hnew, hfile⟩ (h x path)
    · rfl

theorem Site.ReadsLayout.layoutReading? {r : Request} {s : Site} {x : Search} {path : Path}
    (h : s.ReadsLayout r x path) : s.layoutReading? r = s.readingOf .layout x.name path.text := by
  rw [Site.layoutReading?, h.search]
  dsimp only
  rw [h.uncached, h.file]

/-- How far a render has come that began on a site, and what is booked for it by then. -/
inductive Accounted (r : Request) (s : Site) : Stage × Site → Prop
  | opening : Accounted r s (.opening, s)
  | readingLayout {q : Nat} {x : Search} {path : Path} {t : Site} (hsearch : r.search? s = some x)
      (hnew : (s.cacheOf r.engine).get? Space.layout.text x.name = none)
      (hfile : x.file? s.files = .ok (some path)) (hnear : s.opened.Near t)
      (hcache : t.cacheOf r.engine = s.cacheOf r.engine) (hbooked : s.Booked r.engine 0 [] t) :
    Accounted r s (.readingLayout q x.name path, t)
  | readingPage {q : Nat} {layout : Option Wrapping} {t : Site} (hlayout : s.layoutFor r = .ok layout)
      (hnew : (s.cacheOf r.engine).get? Space.file.text r.path = none) (hnear : s.opened.Near t)
      (hfree : (t.cacheOf r.engine).get? Space.file.text r.path = none)
      (hbooked : s.Booked r.engine (s.layoutReading? r).toList.length
        (s.kept r (s.layoutReading? r).toList) t) :
    Accounted r s (.readingPage q layout, t)
  | done {stage : Stage} {t : Site} (hahead : stage.ahead = 0)
      (hbooked : s.Booked r.engine (s.readings r).length (s.kept r (s.readings r)) t) :
    Accounted r s (stage, t)

namespace Accounted

variable {r : Request} {s t : Site}

theorem ofRunPage {q : Nat} {layout : Option Wrapping} {page : Compiled}
    (h : s.Booked r.engine (s.readings r).length (s.kept r (s.readings r)) t) :
    Accounted r s (Stage.after (runPage r q layout page t)) ∧
      (Stage.after (runPage r q layout page t)).1.ahead = 0 := by
  have hahead := ahead_runPage r q layout page t
  exact ⟨.done hahead (h.runPage r q layout page), hahead⟩

/-- Once the layout is settled, the page is run or read. -/
theorem ofStartPage {q : Nat} {layout : Option Wrapping} (hlayout : s.layoutFor r = .ok layout)
    (hnear : s.opened.Near t)
    (hpage : (t.cacheOf r.engine).get? Space.file.text r.path =
      (s.cacheOf r.engine).get? Space.file.text r.path)
    (h : s.Booked r.engine (s.layoutReading? r).toList.length
      (s.kept r (s.layoutReading? r).toList) t) :
    Accounted r s (Stage.after (startPage r q layout t)) ∧
      (Stage.after (startPage r q layout t)).1.ahead ≤ 1 := by
  obtain ⟨log, hcached⟩ := cached?_apply r .file r.path t
  rw [startPage, after_bind_apply, hcached, hpage]
  have hlog := h.aside t.files t.options t.activity log
  cases hfound : (s.cacheOf r.engine).get? Space.file.text r.path with
  | some c =>
    have hreadings : s.readings r = (s.layoutReading? r).toList := by
      rw [Site.readings, Site.pageReading?, hlayout, hfound]
      exact List.append_nil _
    obtain ⟨hdone, hahead⟩ : Accounted r s (Stage.after (runPage r q layout c _)) ∧ _ :=
      ofRunPage (hreadings ▸ hlog)
    exact ⟨hdone, hahead ▸ Nat.zero_le 1⟩
  | none =>
    exact ⟨.readingPage hlayout hfound (hnear.log log) (hpage.trans hfound) hlog, Nat.le_refl 1⟩

/-- Up to its page, a render asks for caching as it did when it began, and compiles as it did. -/
theorem kept_near (hnear : s.opened.Near t) (xs : List Reading) : t.kept r xs = s.kept r xs := by
  refine Site.kept_congr ?_ (hnear.engines r.engine).1.autoescape xs
  rw [Site.caching, Site.caching, hnear.optionsAt]

theorem step_readingPage {q : Nat} {layout : Option Wrapping} (hlayout : s.layoutFor r = .ok layout)
    (hnew : (s.cacheOf r.engine).get? Space.file.text r.path = none) (hnear : s.opened.Near t)
    (hfree : (t.cacheOf r.engine).get? Space.file.text r.path = none)
    (h : s.Booked r.engine (s.layoutReading? r).toList.length
      (s.kept r (s.layoutReading? r).toList) t) :
    Accounted r s (Stage.step r (.readingPage q layout) t) ∧
      (Stage.step r (.readingPage q layout) t).1.ahead = 0 := by
  have hreading : t.readingOf .file r.path r.path = s.pageReading? r := by
    rw [Site.pageReading?, hlayout, hnew, Site.readingOf, hnear.files]
    rfl
  obtain ⟨u, -, hread, -, hafter⟩ :=
    after_readAndKeep h.houses hfree r.path (runPage r q layout)
  rw [hreading, kept_near hnear] at hread
  have hbooked : s.Booked r.engine (s.readings r).length (s.kept r (s.readings r)) u := by
    rw [Site.readings, List.length_append, Site.kept_append]
    exact h.trans hread
  rw [Stage.step_eq, work_readingPage, hafter]
  cases t.template r.engine r.path with
  | ok c => exact ofRunPage hbooked
  | error stop => exact ⟨.done rfl hbooked, rfl⟩

theorem step_readingLayout {q : Nat} {x : Search} {path : Path} (hreads : s.ReadsLayout r x path)
    (hnear : s.opened.Near t) (hcache : t.cacheOf r.engine = s.cacheOf r.engine)
    (h : s.Booked r.engine 0 [] t) :
    Accounted r s (Stage.step r (.readingLayout q x.name path) t) ∧
      (Stage.step r (.readingLayout q x.name path) t).1.ahead ≤ 1 := by
  have hreading : t.readingOf .layout x.name path.text = s.layoutReading? r := by
    rw [hreads.layoutReading?, Site.readingOf, Site.readingOf, hnear.files]
    rfl
  have htemplate : t.template r.engine path.text = s.template r.engine path.text :=
    (hnear.template r.engine path.text).trans (s.template_opened r.engine path.text)
  have hlayout := hreads.layoutFor
  obtain ⟨u, hu, hread, hothers, hafter⟩ := after_readAndKeep h.houses
    (hcache ▸ hreads.uncached) path.text
    fun c => startPage r q (some ⟨x.name, c⟩)
  rw [hreading, kept_near hnear] at hread
  have hbooked : s.Booked r.engine (s.layoutReading? r).toList.length
      (s.kept r (s.layoutReading? r).toList) u := by
    have hsum := h.trans hread
    rwa [Nat.zero_add, List.nil_append] at hsum
  rw [Stage.step_eq, work_readingLayout, hafter, htemplate]
  cases hc : s.template r.engine path.text with
  | ok c =>
    rw [hc] at hlayout
    have hpage : (u.cacheOf r.engine).get? Space.file.text r.path =
        (s.cacheOf r.engine).get? Space.file.text r.path := by
      rw [hothers _ _ (Space.file_ne_layout r.path x.name), hcache]
    exact ofStartPage hlayout (hnear.trans hu) hpage hbooked
  | error stop =>
    rw [hc] at hlayout
    have hreadings : s.readings r = (s.layoutReading? r).toList := by
      rw [Site.readings, Site.pageReading?, hlayout]
      exact List.append_nil _
    exact ⟨.done rfl (hreadings ▸ hbooked), Nat.zero_le 1⟩

/-- A render that has no layout to read, and whose layout fails, reads nothing. -/
theorem readings_eq_nil {e : Stop} (hnone : s.layoutReading? r = none)
    (hlayout : s.layoutFor r = .error e) : s.readings r = [] := by
  rw [Site.readings, Site.pageReading?, hnone, hlayout]
  rfl

theorem step_opening (h : s.Houses r.engine) :
    Accounted r s (Stage.step r .opening s) ∧ (Stage.step r .opening s).1.ahead ≤ 2 := by
  have hbegun : ∀ activity log, s.Booked r.engine 0 [] { s with activity, log } := fun activity log =>
    (Site.Booked.refl h).aside s.files s.options activity log
  have hended : ∀ {e : Stop} (activity : Activity) (log : List Log.Record),
      s.layoutFor r = .error e → (∀ x path, ¬ s.ReadsLayout r x path) →
      Accounted r s (.ended (.error e), { s with activity, log }) := by
    intro e activity log hlayout hnone
    refine .done rfl ?_
    rw [readings_eq_nil (layoutReading?_eq_none hnone) hlayout, Site.kept_nil]
    exact hbegun activity log
  have hopens := step_opens r s
  generalize Stage.step r .opening s = y at hopens ⊢
  cases hopens with
  | undecided hlayout hnone => exact ⟨hended s.activity s.log hlayout hnone, Nat.zero_le 2⟩
  | wanting log hlayout hnone => exact ⟨hended s.opened.activity log hlayout hnone, Nat.zero_le 2⟩
  | page log hlayout hnone =>
    have hbooked : s.Booked r.engine (s.layoutReading? r).toList.length
        (s.kept r (s.layoutReading? r).toList) { s.opened with log } := by
      rw [layoutReading?_eq_none hnone]
      exact (s.kept_nil r).symm ▸ hbegun s.opened.activity log
    obtain ⟨haccounted, hahead⟩ : Accounted r s (Stage.after (startPage r _ _ _)) ∧ _ :=
      ofStartPage hlayout ((Site.Near.refl s.opened).log log) rfl hbooked
    exact ⟨haccounted, Nat.le_succ_of_le hahead⟩
  | layout log hreads =>
    exact ⟨.readingLayout hreads.search hreads.uncached hreads.file
      ((Site.Near.refl s.opened).log log) rfl (hbegun s.opened.activity log), Nat.le_refl 2⟩

theorem step {stage : Stage} (h : s.Houses r.engine) (hstage : Accounted r s (stage, t)) :
    Accounted r s (stage.step r t) ∧ (stage.step r t).1.ahead ≤ stage.ahead - 1 := by
  cases hstage with
  | opening => exact step_opening h
  | readingLayout hsearch hnew hfile hnear hcache hbooked =>
    exact step_readingLayout ⟨hsearch, hnew, hfile⟩ hnear hcache hbooked
  | readingPage hlayout hnew hnear hfree hbooked =>
    obtain ⟨hnext, hahead⟩ := step_readingPage hlayout hnew hnear hfree hbooked
    exact ⟨hnext, Nat.le_of_eq hahead⟩
  | done hahead hbooked =>
    obtain ⟨hnext, hdone⟩ := hbooked.step r hahead
    exact ⟨.done hdone hnext, hdone ▸ Nat.zero_le _⟩

theorem runStages {stage : Stage} (h : s.Houses r.engine) (hstage : Accounted r s (stage, t))
    (n : Nat) :
    Accounted r s (View.runStages r n stage t) ∧
      (View.runStages r n stage t).1.ahead ≤ stage.ahead - n := by
  induction n generalizing stage t with
  | zero => exact ⟨hstage, Nat.le_refl _⟩
  | succ n ih =>
    cases hresult : stage.result? with
    | some x =>
      obtain rfl : stage = .ended x := by
        cases stage <;> first | cases hresult; rfl | cases hresult
      rw [runStages_ended]
      exact ⟨hstage, Nat.zero_le _⟩
    | none =>
      obtain ⟨hnext, hahead⟩ := hstage.step h
      rw [runStages_succ r n t hresult]
      generalize stage.step r t = after at hnext hahead ⊢
      obtain ⟨hlast, hbound⟩ := ih hnext
      exact ⟨hlast, by omega⟩

/-- What is booked for a render at any stage are the first of its readings. -/
theorem booked (h : s.Houses r.engine) {stage : Stage} (hstage : Accounted r s (stage, t)) :
    ∃ xs, xs <+: s.readings r ∧ s.Booked r.engine xs.length (s.kept r xs) t := by
  cases hstage with
  | opening => exact ⟨[], List.nil_prefix, (s.kept_nil r).symm ▸ .refl h⟩
  | readingLayout hsearch hnew hfile hnear hcache hbooked =>
    exact ⟨[], List.nil_prefix, (s.kept_nil r).symm ▸ hbooked⟩
  | readingPage hlayout hnew hnear hfree hbooked => exact ⟨_, List.prefix_append _ _, hbooked⟩
  | done hahead hbooked => exact ⟨_, List.prefix_refl _, hbooked⟩

theorem cancel {stage : Stage} (h : s.Houses r.engine) (hstage : Accounted r s (stage, t)) :
    ∃ xs, xs <+: s.readings r ∧ s.Booked r.engine xs.length (s.kept r xs) t ∧
      stage.cancel.ahead = 0 := by
  obtain ⟨xs, hfirst, hbooked⟩ := hstage.booked h
  refine ⟨xs, hfirst, hbooked, ?_⟩
  cases stage <;> rfl

end Accounted

/-- A render that has read its templates goes on without more of them. -/
theorem Site.Booked.runStages {s t : Site} {e n : Nat} {new : List ((String × String) × Compiled)}
    (h : s.Booked e n new t) (r : Request) (k : Nat) {stage : Stage} (hahead : stage.ahead = 0) :
    s.Booked e n new (View.runStages r k stage t).2 := by
  induction k generalizing stage t with
  | zero => exact h
  | succ k ih =>
    cases hresult : stage.result? with
    | some x =>
      obtain rfl : stage = .ended x := by
        cases stage <;> first | cases hresult; rfl | cases hresult
      rw [runStages_ended]
      exact h
    | none =>
      obtain ⟨hnext, hdone⟩ := h.step r hahead
      rw [runStages_succ r k t hresult]
      exact ih hnext hdone

/-- A render compiles its readings and keeps what it is to keep of them. -/
theorem booked_render {r : Request} {s : Site} (h : s.Houses r.engine) :
    s.Booked r.engine (s.readings r).length (s.kept r (s.readings r)) (render r s).2 := by
  obtain ⟨hstage, hahead⟩ := Accounted.runStages h (Accounted.opening (r := r) (s := s)) (patience s)
  have hpatience : 3 ≤ patience s := by
    rw [patience]
    omega
  have hdone : (runStages r (patience s) .opening s).1.ahead = 0 := by
    have hopening : Stage.opening.ahead = 3 := rfl
    omega
  show s.Booked _ _ _ (runStages r (patience s) .opening s).2
  generalize runStages r (patience s) .opening s = x at hstage hdone
  cases hstage with
  | opening => cases hdone
  | readingLayout => cases hdone
  | readingPage => cases hdone
  | done hahead hbooked => exact hbooked

/-! ## Histories with files -/

/-- What happens to an engine and its files, one thing after the other. -/
inductive Happening where
  | operation (op : Operation)
  /-- Files are written, changed and removed. -/
  | files (files : Tree)
  | registerPartials (directory : Path)

namespace Happening

def perform (e : Nat) (s : Site) : Happening → Site
  | operation op => op.perform e s
  | files tree => { s with files := tree }
  | registerPartials directory => (View.registerPartials e directory s).2

/-- The render of a happening, if it is one. -/
def request? (e : Nat) : Happening → Option Request
  | operation op => op.request? e
  | _ => none

def clears : Happening → Bool
  | operation .clearCache => true
  | _ => false

end Happening

namespace Site

/-- A site after what happened to it. -/
def through (s : Site) (e : Nat) (history : List Happening) : Site :=
  history.foldl (Happening.perform e) s

/-- The templates of a render are all in the cache. -/
structure Ready (s : Site) (r : Request) : Prop where
  layout : ∀ x, r.search? s = some x →
    ((s.cacheOf r.engine).get? Space.layout.text x.name).isSome = true
  page : ((s.cacheOf r.engine).get? Space.file.text r.path).isSome = true

variable {s : Site} {e : Nat}

/-- A render that goes on after it was cancelled has compiled the first of its readings. -/
theorem Houses.booked_cancelledRender (h : s.Houses e) (path : String)
    (options stages rest : Nat) :
    ∃ xs, xs <+: s.readings ⟨e, path, options⟩ ∧ s.Booked e xs.length
      (s.kept ⟨e, path, options⟩ xs)
      (Operation.perform e s (.cancelledRender path options stages rest)) := by
  have hbegun : Accounted ⟨e, path, options⟩ s (.opening, s) := .opening
  obtain ⟨hstage, -⟩ := hbegun.runStages h stages
  obtain ⟨xs, hfirst, hbooked, hahead⟩ := Accounted.cancel h hstage
  exact ⟨xs, hfirst, hbooked.runStages _ rest hahead⟩

/-- Whatever else happens to an engine, but for clearing its cache, is in no book. -/
theorem Houses.booked_other (h : s.Houses e) {x : Happening} (hrender : x.request? e = none)
    (hclears : x.clears = false) : s.Booked e 0 [] (x.perform e s) := by
  have hbegun := Booked.refl h
  cases x with
  | files tree => exact hbegun.aside tree s.options s.activity s.log
  | registerPartials directory =>
    obtain ⟨log, hsite⟩ := registerPartials_site e directory s
    have hpartials := setPartials_eq (s.engine e)
      (partialsIn s.files (s.engine e).partialExtensions directory)
    have hset : s.Booked e 0 [] (s.setEngine e ((s.engine e).setPartials
        (partialsIn s.files (s.engine e).partialExtensions directory))) := by
      rw [hpartials]
      exact hbegun.setEngine rfl rfl
    show s.Booked e 0 [] (View.registerPartials e directory s).2
    rw [hsite]
    exact hset.aside s.files s.options s.activity log
  | operation op =>
    cases op with
    | render path options => cases hrender
    | cancelledRender path options stages rest => cases hrender
    | clearCache => cases hclears
    | setOptions options => exact hbegun.aside s.files options s.activity s.log
    | registerHelper name helper =>
      exact (hbegun.aside s.files s.options _ s.log).setEngine rfl rfl
    | registerDeferred name helper =>
      exact (hbegun.aside s.files s.options _ s.log).setEngine rfl rfl
    | registerPartial name source => exact hbegun.setEngine rfl rfl

theorem Houses.booked (h : s.Houses e) {x : Happening} (hclears : x.clears = false) :
    ∃ n new, s.Booked e n new (x.perform e s) := by
  cases hrender : x.request? e with
  | none => exact ⟨0, [], h.booked_other hrender hclears⟩
  | some r =>
    cases x with
    | files tree => cases hrender
    | registerPartials directory => cases hrender
    | operation op =>
      cases op with
      | render path options => exact ⟨_, _, booked_render (r := ⟨e, path, options⟩) h⟩
      | cancelledRender path options stages rest =>
        obtain ⟨xs, -, hbooked⟩ := h.booked_cancelledRender path options stages rest
        exact ⟨_, _, hbooked⟩
      | _ => cases hrender

/-- To clear a cache empties it, and is no compilation. -/
theorem Houses.clear (h : s.Houses e) :
    ((Operation.perform e s .clearCache).engine e).compiles = (s.engine e).compiles ∧
      ((Operation.perform e s .clearCache).cacheOf e).entries = [] ∧
      (Operation.perform e s .clearCache).Houses e := by
  have hself := s.cacheOf_setCacheOf_self (s.cacheOf e).clear h.cache
  have hlength : (s.setCacheOf e (s.cacheOf e).clear).caches.length = s.caches.length :=
    List.length_set
  exact ⟨rfl, congrArg Cache.entries hself, h.engine, hlength.symm ▸ h.cache⟩

theorem Houses.perform (h : s.Houses e) (x : Happening) : (x.perform e s).Houses e := by
  cases hclears : x.clears with
  | false =>
    obtain ⟨n, new, hbooked⟩ := h.booked hclears
    exact hbooked.houses
  | true =>
    obtain rfl : x = .operation .clearCache := by
      cases x with
      | operation op => cases op <;> first | rfl | cases hclears
      | _ => cases hclears
    exact h.clear.2.2

theorem Houses.through (h : s.Houses e) (history : List Happening) :
    (s.through e history).Houses e := by
  induction history generalizing s with
  | nil => exact h
  | cons x more ih => exact ih (h.perform x)

/-- Until the cache is cleared, entries only come to it. -/
theorem Houses.entries_through (h : s.Houses e) {history : List Happening}
    (hclears : ∀ x ∈ history, x.clears = false) :
    (s.cacheOf e).entries <+: ((s.through e history).cacheOf e).entries := by
  induction history generalizing s with
  | nil => exact List.prefix_refl _
  | cons x more ih =>
    obtain ⟨n, new, hbooked⟩ := h.booked (hclears x List.mem_cons_self)
    have hmore := ih hbooked.houses fun y hy => hclears y (List.mem_cons_of_mem _ hy)
    have hone : (s.cacheOf e).entries <+: ((x.perform e s).cacheOf e).entries :=
      ⟨new, hbooked.entries.symm⟩
    exact hone.trans hmore

/-- What templates a render finds in the cache, it does not look for in files. -/
theorem Ready.render_eq {r : Request} (h : s.Ready r) (files : Tree) :
    (render r { s with files }).1 = (render r s).1 := by
  have hlayout : Site.layoutFor { s with files } r = s.layoutFor r := by
    have hsearch := h.layout
    rw [Request.search?] at hsearch
    have hoptions : Site.optionsAt { s with files } r.options = s.optionsAt r.options := rfl
    have hcache : Site.cacheOf { s with files } r.engine = s.cacheOf r.engine := rfl
    rw [Site.layoutFor, Site.layoutFor, hoptions, hcache]
    cases hdecision : LayoutDecision.ofOptions (s.optionsAt r.options) with
    | error f => rfl
    | ok decision =>
      rw [hdecision] at hsearch
      dsimp only at hsearch ⊢
      cases hname : decision.name? with
      | none => rfl
      | some name =>
        rw [hname] at hsearch
        obtain ⟨c, hc⟩ := Option.isSome_iff_exists.mp (hsearch _ rfl)
        have hget : (s.cacheOf r.engine).get? Space.layout.text name = some c := hc
        dsimp only
        rw [hget]
  have hpage : Site.pageFor { s with files } r = s.pageFor r := by
    obtain ⟨c, hc⟩ := Option.isSome_iff_exists.mp h.page
    have hcache : Site.cacheOf { s with files } r.engine = s.cacheOf r.engine := rfl
    rw [Site.pageFor, Site.pageFor, hcache, hc]
  have hpeers : Site.Peers s.activity.registries.length s.activity.registries.length
      (Site.opened { s with files }) s.opened :=
    ⟨fun d => ⟨.refl _, rfl⟩, rfl, rfl, rfl, rfl, s.room_opened, s.room_opened⟩
  rw [View.render_eq, View.render_eq, hlayout, hpage]
  congr 1
  funext layout
  congr 1
  funext page
  exact printed_of_peers (t := { s with files }) hpeers r layout page

end Site

/-- The books of an engine and its cache after any history: a render compiles its readings, and
keeps them under free keys if its options ask for that and they can be compiled; one that is
cancelled has got through the first of them; nothing else is compiled or kept. What is kept stays
until the cache is cleared, which empties it, and a render that finds all its templates kept does
not depend on the files. -/
theorem cache_accounts {s₀ : Site} {e : Nat} (h : s₀.Houses e) (history : List Happening) :
    let s := s₀.through e history
    (∀ path options, let r : Request := ⟨e, path, options⟩
      s.Booked e (s.readings r).length (s.kept r (s.readings r)) (render r s).2 ∧
        (s.Ready r → ∀ files, (render r { s with files }).1 = (render r s).1)) ∧
      (∀ path options stages rest, let r : Request := ⟨e, path, options⟩
        ∃ xs, xs <+: s.readings r ∧ s.Booked e xs.length (s.kept r xs)
          (Operation.perform e s (.cancelledRender path options stages rest))) ∧
      (∀ x : Happening, x.request? e = none → x.clears = false →
        s.Booked e 0 [] (x.perform e s)) ∧
      (((Operation.perform e s .clearCache).engine e).compiles = (s.engine e).compiles ∧
        ((Operation.perform e s .clearCache).cacheOf e).entries = []) ∧
      ∀ more : List Happening, (∀ x ∈ more, x.clears = false) →
        (s.cacheOf e).entries <+: ((s₀.through e (history ++ more)).cacheOf e).entries ∧
        ∀ space key c, (s.cacheOf e).get? space key = some c →
          ((s₀.through e (history ++ more)).cacheOf e).get? space key = some c := by
  intro s
  have hs : s.Houses e := h.through history
  refine ⟨fun path options => ⟨booked_render (r := ⟨e, path, options⟩) hs, fun hready files =>
    hready.render_eq files⟩, fun path options stages rest =>
    hs.booked_cancelledRender path options stages rest, fun x hrender hclears =>
    hs.booked_other hrender hclears, ⟨hs.clear.1, hs.clear.2.1⟩, fun more hclears => ?_⟩
  have happend : s₀.through e (history ++ more) = s.through e more := List.foldl_append
  have hfirst := hs.entries_through hclears
  rw [happend]
  refine ⟨hfirst, fun space key c hget => ?_⟩
  obtain ⟨new, hnew⟩ := hfirst
  have hlookup : (s.cacheOf e).entries.lookup (space, key) = some c := hget
  rw [Cache.get?, ← hnew, List.lookup_append, hlookup, Option.some_or]

theorem isSome_get?_of_mem {c : Cache Compiled} {space key : String}
    (h : (space, key) ∈ c.entries.map (·.1)) : (c.get? space key).isSome = true := by
  rw [Option.isSome_iff_ne_none]
  intro hnone
  obtain ⟨x, hx, hkey⟩ := List.mem_map.mp h
  have hne : ((space, key) != x.1) = true := List.lookup_eq_none_iff.mp hnone x hx
  rw [hkey, bne_self_eq_false] at hne
  cases hne

theorem readings_twoKinds :
    twoKinds.readings (kinds true) =
      [⟨.layout, "layout", "html[{{ body }}]"⟩, ⟨.file, "/v/index.html", "html page"⟩] := by
  have hsearch : (kinds true).search? twoKinds =
      some ((kinds true).search (twoKinds.optionsAt (kinds true).options) defaultLayout) := rfl
  have hlayoutText : templateText twoKinds.files (kindsLayout true).text =
      .ok "html[{{ body }}]" := by
    simp only [templateText, Tree.readText, Tree.read, Tree.place_eq]
    rfl
  have hpageText : templateText twoKinds.files (kinds true).path = .ok "html page" := by
    simp only [templateText, Tree.readText, Tree.read, Tree.place_eq]
    rfl
  have hlayoutReading : twoKinds.layoutReading? (kinds true) =
      some ⟨.layout, "layout", "html[{{ body }}]"⟩ := by
    rw [Site.layoutReading?, hsearch]
    dsimp only
    rw [file?_twoKinds true]
    show twoKinds.readingOf .layout "layout" (kindsLayout true).text = _
    rw [Site.readingOf, hlayoutText]
    rfl
  obtain ⟨c, hc, -⟩ := template_twoKinds true
  have hlayout : twoKinds.layoutFor (kinds true) = .ok (some ⟨defaultLayout, c⟩) := by
    have hengine : (kinds true).engine = 0 := rfl
    rw [Site.ReadsLayout.layoutFor ⟨hsearch, rfl, file?_twoKinds true⟩, hengine, hc]
    rfl
  have hpageReading : twoKinds.pageReading? (kinds true) =
      some ⟨.file, "/v/index.html", "html page"⟩ := by
    rw [Site.pageReading?, hlayout]
    show twoKinds.readingOf .file (kinds true).path (kinds true).path = _
    rw [Site.readingOf, hpageText]
    rfl
  rw [Site.readings, hlayoutReading, hpageReading]
  rfl

/-- The first render compiles its layout and its page and keeps both; the second one finds them
there, also when all files are gone. -/
theorem accounts_of_twoKinds :
    let s := twoKinds.through 0 [.operation (.render "/v/index.html" 1)]
    twoKinds.Houses 0 ∧ (s.engine 0).compiles = 2 ∧
      (s.cacheOf 0).entries.map (·.1) = [("layout", "layout"), ("file", "/v/index.html")] ∧
      (render (kinds true) { s with files := ⟨[], []⟩ }).1 = (render (kinds true) s).1 := by
  intro s
  have hhouses : twoKinds.Houses 0 := ⟨by decide, by decide⟩
  obtain ⟨hbegin, -⟩ := cache_accounts hhouses []
  obtain ⟨hbooked, -⟩ := hbegin "/v/index.html" 1
  obtain ⟨hafter, -⟩ := cache_accounts hhouses [.operation (.render "/v/index.html" 1)]
  obtain ⟨-, hready⟩ := hafter "/v/index.html" 1
  have hreadings : (twoKinds.through 0 []).readings ⟨0, "/v/index.html", 1⟩ = _ := readings_twoKinds
  rw [hreadings] at hbooked
  have hkeys : (s.cacheOf 0).entries.map (·.1) =
      [("layout", "layout"), ("file", "/v/index.html")] := by
    rw [show (s.cacheOf 0).entries = _ from hbooked.entries]
    decide +kernel
  refine ⟨hhouses, hbooked.compiles, hkeys, hready ⟨?_, ?_⟩ _⟩
  · intro x hx
    have hoption : ∀ name, name ≠ "body" →
        (s.optionsAt 1).get? name = (twoKinds.optionsAt 1).get? name :=
      fun name hname => get?_optionsAt_render (kinds true) twoKinds 1 hname
    have hsearch : (kinds true).search? s = (kinds true).search? twoKinds :=
      search?_congr (kinds true) hoption
    obtain rfl := Option.some.inj (hsearch.symm.trans hx)
    exact isSome_get?_of_mem (hkeys ▸ List.mem_cons_self)
  · exact isSome_get?_of_mem (hkeys ▸ List.mem_cons_of_mem _ List.mem_cons_self)

end DeferredViews.View
