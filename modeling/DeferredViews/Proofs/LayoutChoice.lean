import DeferredViews.Proofs.Histories

/-!
# Which layout a render gets

A layout is kept by its name alone. Where it is looked for depends on more: on the view roots of the
options and on the extension of the page. So a render gets the layout of the file that it finds
itself as long as all renders look in the same place for layouts of its name; otherwise it may get
the one that another render found before.
-/
namespace DeferredViews.View

open Deferred Files Template

/-- The layout that a render finds when the cache is left aside. -/
def Site.ownLayout (s : Site) (r : Request) : Except Stop (Option Wrapping) :=
  match LayoutDecision.ofOptions (s.optionsAt r.options) with
  | .error f => .error (.fault f)
  | .ok decision =>
    match decision.name? with
    | none => .ok none
    | some name => s.foundLayout r decision name

section Finding

variable {s : Site} {r : Request} {decision : LayoutDecision} {name : String} {c : Compiled}

theorem Site.ownLayout_of_file? {path : Path}
    (hdecision : LayoutDecision.ofOptions (s.optionsAt r.options) = .ok decision)
    (hname : decision.name? = some name)
    (hfile : (r.search (s.optionsAt r.options) name).file? s.files = .ok (some path))
    (hc : s.template r.engine path.text = .ok c) :
    s.ownLayout r = .ok (some ⟨name, c⟩) := by
  rw [ownLayout, hdecision]
  dsimp only
  rw [hname]
  dsimp only
  rw [foundLayout, hfile]
  dsimp only
  rw [hc]
  rfl

end Finding

/-- Two searches that look for one name look in the same place. -/
def Search.Agrees (x y : Search) : Prop :=
  x.name = y.name → x.roots = y.roots ∧ x.extension = y.extension

theorem Search.Agrees.eq {x y : Search} (h : x.Agrees y) (hname : x.name = y.name) : x = y := by
  obtain ⟨hroots, hextension⟩ := h hname
  cases x
  cases y
  cases hname
  cases hroots
  cases hextension
  rfl

namespace Traced

variable {s₀ s : Site} {known : List Search} {r : Request}

theorem pageFor (h : Traced s₀ r.engine known s) : s.pageFor r = s.template r.engine r.path := by
  rw [Site.pageFor]
  cases hget : (s.cacheOf r.engine).get? Space.file.text r.path with
  | none => rfl
  | some c =>
    have hc : s₀.template r.engine r.path = .ok c :=
      h.entries .file r.path c (Cache.mem_of_get? hget)
    rw [h.template, hc]

/-- A layout that a render gets was found by itself, or kept by a render before. -/
theorem layoutFor_some (h : Traced s₀ r.engine known s) {w : Wrapping}
    (hw : s.layoutFor r = .ok (some w)) :
    ∃ y, (y ∈ known ∨ r.search? s = some y) ∧ y.name = w.name ∧
      ∃ path, y.file? s.files = .ok (some path) ∧
        s.template r.engine path.text = .ok w.compiled := by
  have hby := s.layoutFor_by r
  rw [hw] at hby
  generalize hresult : (Except.ok (some w) : Except Stop (Option Wrapping)) = result at hby
  cases hby with
  | undecided => cases hresult
  | unwanted => cases hresult
  | fault => cases hresult
  | missing => split at hresult <;> cases hresult
  | kept _ _ hget =>
    cases hresult
    obtain ⟨y, hy, hyname, path, hfile, hc⟩ := h.entries .layout _ _ (Cache.mem_of_get? hget)
    rw [← h.files] at hfile
    rw [← h.template] at hc
    exact ⟨y, .inl hy, hyname, path, hfile, hc⟩
  | @found _ _ path hdecision hname _ hfile =>
    cases hc : s.template r.engine path.text with
    | error stop =>
      rw [hc] at hresult
      cases hresult
    | ok c =>
      rw [hc] at hresult
      cases hresult
      exact ⟨_, .inr (search?_of_name? hdecision hname), rfl, path, hfile, hc⟩

/-- Where all have looked in the same place, a render gets the layout that it finds itself, or none
if it finds none and asked for none by name. -/
theorem layoutFor_eq (h : Traced s₀ r.engine known s)
    (hagrees : ∀ x ∈ known, ∀ y, r.search? s = some y → x.Agrees y) :
    s.layoutFor r = s.ownLayout r := by
  rw [Site.layoutFor, Site.ownLayout]
  rw [Request.search?] at hagrees
  cases hdecision : LayoutDecision.ofOptions (s.optionsAt r.options) with
  | error f => rfl
  | ok decision =>
    rw [hdecision] at hagrees
    dsimp only at hagrees ⊢
    cases hname : decision.name? with
    | none => rfl
    | some name =>
      rw [hname] at hagrees
      dsimp only
      cases hget : (s.cacheOf r.engine).get? Space.layout.text name with
      | none => rfl
      | some c =>
        obtain ⟨y, hy, hyname, path, hfile, hc⟩ :=
          h.entries .layout name c (Cache.mem_of_get? hget)
        -- The search that found the kept layout is the one that this render would make.
        have hsame : y = r.search (s.optionsAt r.options) name :=
          (hagrees y hy _ rfl).eq hyname
        rw [← h.files, hsame] at hfile
        rw [← h.template] at hc
        rw [Site.foundLayout, hfile]
        dsimp only
        rw [hc]
        rfl

end Traced

/-- What is kept under one key is one template, where all have looked in the same place. -/
theorem Provenance.unique {s₀ : Site} {e : Nat} {known : List Search}
    (hagrees : ∀ x ∈ known, ∀ y ∈ known, x.Agrees y) {space : Space} {key : String}
    {c d : Compiled} (hc : Provenance s₀ e known space key c)
    (hd : Provenance s₀ e known space key d) : c = d := by
  cases space with
  | file => exact Except.ok.inj (hc.symm.trans hd)
  | layout =>
    obtain ⟨x, hx, hxname, path, hfile, hc⟩ := hc
    obtain ⟨y, hy, hyname, path', hfile', hd⟩ := hd
    obtain rfl := (hagrees x hx y hy).eq (hxname.trans hyname.symm)
    rw [hfile] at hfile'
    cases hfile'
    exact Except.ok.inj (hc.symm.trans hd)

theorem Site.after_append (s : Site) (e : Nat) (history more : List Operation) :
    s.after e (history ++ more) = (s.after e history).after e more :=
  List.foldl_append

theorem searches_append (e : Nat) (history more : List Operation) (s : Site) :
    searches e (history ++ more) s = searches e history s ++ searches e more (s.after e history) := by
  induction history generalizing s with
  | nil => rfl
  | cons op history ih =>
    rw [List.cons_append, searches, searches, ih, List.append_assoc]
    rfl

/-- After any history that began with an empty cache, a render prints its page in the layout that
`layoutFor` tells. This layout is the template of a file that the render finds itself, or that some
render of the history found and kept when it looked for a layout of that name. If all of these that
looked for the name of this render's layout looked in the same view roots and for pages of the same
extension, it is the layout of the file that the render finds itself, and none if it finds none and
asked for none. If all renders that keep their layouts agree so, what is kept under a key at some
time and what is kept under it later are the same template. -/
theorem layout_of_history (r : Request) (s₀ : Site)
    (hempty : (s₀.cacheOf r.engine).entries = []) (history : List Operation) :
    (render r (s₀.after r.engine history)).1 =
        ((s₀.after r.engine history).layoutFor r).bind (fun layout =>
          ((s₀.after r.engine history).pageFor r).bind
            ((s₀.after r.engine history).printed r layout)) ∧
      (∀ w, (s₀.after r.engine history).layoutFor r = .ok (some w) →
        ∃ y, (y ∈ searches r.engine history s₀ ∨
            r.search? (s₀.after r.engine history) = some y) ∧
          y.name = w.name ∧ ∃ path, y.file? s₀.files = .ok (some path) ∧
            s₀.template r.engine path.text = .ok w.compiled) ∧
      ((∀ x ∈ searches r.engine history s₀, ∀ y,
          r.search? (s₀.after r.engine history) = some y → x.Agrees y) →
        (s₀.after r.engine history).layoutFor r = (s₀.after r.engine history).ownLayout r) ∧
      ∀ more, (∀ x ∈ searches r.engine (history ++ more) s₀,
          ∀ y ∈ searches r.engine (history ++ more) s₀, x.Agrees y) →
        ∀ (space : Space) key c d,
          ((space.text, key), c) ∈ ((s₀.after r.engine history).cacheOf r.engine).entries →
          ((space.text, key), d) ∈
            ((s₀.after r.engine (history ++ more)).cacheOf r.engine).entries → c = d := by
  have htraced := (Traced.begin hempty).after history
  rw [List.nil_append] at htraced
  refine ⟨render_eq r _, ?_, htraced.layoutFor_eq, ?_⟩
  · intro w hw
    obtain ⟨y, hy, hname, path, hfile, hc⟩ := htraced.layoutFor_some hw
    rw [htraced.files] at hfile
    rw [htraced.template] at hc
    exact ⟨y, hy, hname, path, hfile, hc⟩
  · intro more hagrees space key c d hc hd
    have hlater := htraced.after more
    rw [← searches_append] at hlater
    rw [Site.after_append] at hd
    have hsubset : searches r.engine history s₀ ⊆ searches r.engine (history ++ more) s₀ := by
      rw [searches_append]
      exact List.subset_append_left _ _
    exact ((htraced.entries space key c hc).mono hsubset).unique hagrees
      (hlater.entries space key d hd)

theorem mem_searches_render {e o : Nat} {path : String} {s : Site} {x : Search}
    (h : x ∈ searches e [.render path o] s) : Request.search? ⟨e, path, o⟩ s = some x := by
  have hkept : Request.kept? ⟨e, path, o⟩ s = some x := by
    rw [searches, searches, List.append_nil] at h
    exact Option.mem_toList.mp h
  rw [Request.kept?] at hkept
  split at hkept
  · exact hkept
  · cases hkept

/-- A render looks for its layout where it would have looked before another render. -/
theorem search?_after_render (r : Request) (path : String) (o : Nat) (s : Site) :
    r.search? (s.after r.engine [.render path o]) = r.search? s :=
  search?_congr r fun _ hname => get?_optionsAt_render ⟨r.engine, path, o⟩ s r.options hname

section Kept

variable {r : Request} {s : Site} {path : Path} {c : Compiled}

/-- No render that has its layout takes a kept layout away. -/
theorem inert_kept (r : Request) (name : String) (c : Compiled) :
    Inert r (fun _ _ => False)
      (fun t => (t.cacheOf r.engine).get? Space.layout.text name = some c) where
  aside _ _ _ h := h
  engine t n d hd h := by
    rw [t.cacheOf_setEngine hd.cache]
    exact h
  body _ _ h := h
  page t d _ h := by
    have hspaces := (Space.file_ne_layout r.path name).symm
    exact (t.get?_put_of_ne r.engine d (t.caching r) hspaces).trans h
  layout _ _ _ _ hfound := hfound.elim

theorem get?_keep {u : Site} (space : Space) (key : String) (c : Compiled)
    (hcaching : u.caching r = true) (hroom : (u.engine r.engine).cache < u.caches.length) :
    ((keep r space key c u).2.cacheOf r.engine).get? space.text key = some c := by
  obtain ⟨log, hkeep⟩ := keep_apply r space key c u
  have hcache : Site.cacheOf { u.setCacheOf r.engine ((u.cacheOf r.engine).put space.text key c
      (u.caching r)).2 with log } r.engine =
        ((u.cacheOf r.engine).put space.text key c (u.caching r)).2 :=
    u.cacheOf_setCacheOf_self _ hroom
  rw [hkeep, hcache, hcaching]
  exact (u.cacheOf r.engine).get?_insert_self space.text key c

/-- A render that keeps its layout leaves it in the cache. -/
theorem layout_kept {x : Search} (h : s.ReadsLayout r x path)
    (hc : s.template r.engine path.text = .ok c) (hcaching : s.caching r = true)
    (hroom : (s.engine r.engine).cache < s.caches.length) :
    ((render r s).2.cacheOf r.engine).get? Space.layout.text x.name = some c := by
  obtain ⟨k, hk⟩ : ∃ k, patience s = k + 2 := ⟨3 + s.activity.patience, by rw [patience]; omega⟩
  -- The first stage finds the file of the layout.
  obtain ⟨log, hopening⟩ := h.step
  -- The second one reads the file, keeps the layout, and goes on with the page.
  obtain ⟨u, hu, hreading⟩ : ∃ u, (u.cacheOf r.engine).get? Space.layout.text x.name = some c ∧
      Stage.step r (.readingLayout s.activity.registries.length x.name path)
          { s.opened with log } =
        Stage.after (startPage r s.activity.registries.length (some ⟨x.name, c⟩) u) := by
    obtain ⟨n, htemplate⟩ := template_apply { s.opened with log } r.engine path.text
    have hnear := (Site.Near.refl s.opened).log log
    have hcache := ((hnear.count r.engine n).engines r.engine).1.cache
    rw [Stage.step_eq, work_readingLayout, after_bind_apply, htemplate,
      hnear.template r.engine path.text, Site.template_opened, hc]
    dsimp only
    have hkept := get?_keep (r := r) .layout x.name c
      (u := Site.setEngine { s.opened with log } r.engine _) hcaching (hcache ▸ hroom)
    obtain ⟨log', hkeep⟩ := keep_apply r .layout x.name c
      (Site.setEngine { s.opened with log } r.engine _)
    rw [hkeep] at hkept
    rw [after_bind_apply, hkeep]
    exact ⟨_, hkept, rfl⟩
  rw [render, hk, runStages_succ r (k + 1) s rfl, hopening]
  dsimp only
  rw [runStages_succ r k _ rfl, hreading]
  exact ((inert_kept r x.name c).startPage _ _ hu |>.runStages (inert_kept r x.name c) k).holds

end Kept

/-- A search in one view root that holds the file. -/
theorem Search.file?_of_isFile {files : Tree} {x : Search} (root : Path) {file path : Path}
    (hroots : x.roots = .ok [root]) (hfile : Path.ofText (layoutFile x.name x.extension) = file)
    (hpath : root ++ file = path) (hisFile : files.isFile path = true) :
    x.file? files = .ok (some path) := by
  have hfound : searchRoots files file [root] = some path := by
    rw [searchRoots, List.map_singleton, hpath]
    exact List.find?_cons_of_pos hisFile
  rw [Search.file?, hroots, hfile]
  exact congrArg Except.ok hfound

/-- The text that a template begins with. -/
def lead (t : Template) : String :=
  match t.body with
  | .text s :: _ => s
  | _ => ""

theorem template_of_source {s : Site} {e : Nat} {path source text : String}
    (hread : templateText s.files path = .ok source)
    (hcompile : (Template.compile (s.engine e).autoescape none source).toOption.map lead =
      some text) :
    ∃ c, s.template e path = .ok c ∧ lead c.template = text := by
  rw [Site.template_eq, hread]
  cases hresult : Template.compile (s.engine e).autoescape none source with
  | error f =>
    rw [hresult] at hcompile
    cases hcompile
  | ok t =>
    rw [hresult] at hcompile
    dsimp only
    rw [hresult]
    exact ⟨⟨e, t⟩, rfl, Option.some.inj hcompile⟩

/-- A page and a layout of each of two kinds. -/
def twoKinds : Site :=
  let options : Locals := [("settings", .dict [(.str "views", .str "/v")]), ("cache", .bool true)]
  { files :=
      ⟨[(["v"], .folder),
        (["v", "index.hbs"], .file (Text.encodeUtf8 "hbs page".toList)),
        (["v", "index.html"], .file (Text.encodeUtf8 "html page".toList)),
        (["v", "layout.hbs"], .file (Text.encodeUtf8 "hbs[{{ body }}]".toList)),
        (["v", "layout.html"], .file (Text.encodeUtf8 "html[{{ body }}]".toList))], []⟩
    engines := [{ cache := 0, partialExtensions := [] }]
    caches := [{}]
    options := [options, options]
    activity := { ids := fun _ => "c0" } }

/-- Renders of the pages of both kinds, each with options of its own. -/
def kinds (html : Bool) : Request :=
  if html then ⟨0, "/v/index.html", 1⟩ else ⟨0, "/v/index.hbs", 0⟩

/-- The layouts of both kinds. -/
def kindsLayout (html : Bool) : Path :=
  ⟨.absolute, ["v", if html then "layout.html" else "layout.hbs"]⟩

theorem file?_twoKinds (html : Bool) :
    ((kinds html).search (twoKinds.optionsAt (kinds html).options) defaultLayout).file?
      twoKinds.files = .ok (some (kindsLayout html)) := by
  have hisFile : twoKinds.files.isFile (kindsLayout html) = true := by
    rw [Tree.isFile, Tree.find?, Tree.place_eq]
    cases html <;> decide +kernel
  cases html <;> exact Search.file?_of_isFile ⟨.absolute, ["v"]⟩ rfl rfl rfl hisFile

theorem template_twoKinds (html : Bool) :
    ∃ c, twoKinds.template 0 (kindsLayout html).text = .ok c ∧
      lead c.template = if html then "html[" else "hbs[" := by
  have hread : templateText twoKinds.files (kindsLayout html).text =
      .ok (if html then "html[{{ body }}]" else "hbs[{{ body }}]") := by
    simp only [templateText, Tree.readText, Tree.read, Tree.place_eq]
    cases html <;> rfl
  exact template_of_source hread (by cases html <;> decide +kernel)

/-- A page that is rendered once more is wrapped in its own layout again. -/
theorem layout_of_page_again :
    (twoKinds.cacheOf 0).entries = [] ∧
      (twoKinds.after 0 [.render "/v/index.html" 1]).layoutFor ⟨0, "/v/index.html", 1⟩ =
        (twoKinds.after 0 [.render "/v/index.html" 1]).ownLayout ⟨0, "/v/index.html", 1⟩ := by
  refine ⟨rfl, (layout_of_history ⟨0, "/v/index.html", 1⟩ twoKinds rfl
    [.render "/v/index.html" 1]).2.2.1 ?_⟩
  intro x hx y hy
  have hsame := (search?_after_render ⟨0, "/v/index.html", 1⟩ "/v/index.html" 1 twoKinds).symm.trans hy
  rw [mem_searches_render hx] at hsame
  cases hsame
  exact fun _ => ⟨rfl, rfl⟩

/-- A page of the other kind gets the layout of the page that was rendered before it, although its
own search finds another one. -/
theorem layout_of_other_kind :
    ∃ w own, (render ⟨0, "/v/index.html", 1⟩ (twoKinds.after 0 [.render "/v/index.hbs" 0])).1 =
          ((twoKinds.after 0 [.render "/v/index.hbs" 0]).pageFor ⟨0, "/v/index.html", 1⟩).bind
            ((twoKinds.after 0 [.render "/v/index.hbs" 0]).printed ⟨0, "/v/index.html", 1⟩
              (some w)) ∧
      (twoKinds.after 0 [.render "/v/index.hbs" 0]).ownLayout ⟨0, "/v/index.html", 1⟩ =
        .ok (some own) ∧
      lead w.compiled.template = "hbs[" ∧ lead own.compiled.template = "html[" := by
  obtain ⟨c, hc, hlead⟩ := template_twoKinds false
  obtain ⟨d, hd, hlead'⟩ := template_twoKinds true
  have hkept : ((twoKinds.after 0 [.render "/v/index.hbs" 0]).cacheOf 0).get? Space.layout.text
      defaultLayout = some c :=
    layout_kept (r := ⟨0, "/v/index.hbs", 0⟩) (s := twoKinds) ⟨rfl, rfl, file?_twoKinds false⟩ hc
      rfl (by decide)
  have htraced : Traced twoKinds 0 _ _ := (Traced.begin rfl).after [.render "/v/index.hbs" 0]
  have hoption : ∀ name, name ≠ "body" →
      ((twoKinds.after 0 [.render "/v/index.hbs" 0]).optionsAt 1).get? name =
        (twoKinds.optionsAt 1).get? name :=
    fun name hname => get?_optionsAt_render ⟨0, "/v/index.hbs", 0⟩ twoKinds 1 hname
  have hdecision : LayoutDecision.ofOptions
      ((twoKinds.after 0 [.render "/v/index.hbs" 0]).optionsAt 1) = .ok .implicit :=
    ofOptions_congr (hoption "layout" (by decide)) (hoption "settings" (by decide))
  refine ⟨⟨defaultLayout, c⟩, ⟨defaultLayout, d⟩, ?_, ?_, hlead, hlead'⟩
  · have hlayout : (twoKinds.after 0 [.render "/v/index.hbs" 0]).layoutFor
        ⟨0, "/v/index.html", 1⟩ = .ok (some ⟨defaultLayout, c⟩) :=
      Site.layoutFor_of_get? hdecision rfl hkept
    rw [render_eq, hlayout]
    rfl
  · have hfile : (Request.search ⟨0, "/v/index.html", 1⟩
        ((twoKinds.after 0 [.render "/v/index.hbs" 0]).optionsAt 1) defaultLayout).file?
          (twoKinds.after 0 [.render "/v/index.hbs" 0]).files =
        .ok (some ⟨.absolute, ["v", "layout.html"]⟩) := by
      rw [Request.search, rootsOf_congr (hoption "settings" (by decide)), htraced.files]
      exact file?_twoKinds true
    have hlayout : (twoKinds.after 0 [.render "/v/index.hbs" 0]).template 0 "/v/layout.html" =
        .ok d := (htraced.template "/v/layout.html").trans hd
    exact Site.ownLayout_of_file? hdecision rfl hfile hlayout

end DeferredViews.View
