import DeferredViews.Proofs.Accounts

/-!
# What an include means

An engine remembers the templates that it loaded for inclusion, and asks only the place where one
was loaded from whether it is still current. So a name that was included from the environment before
it became a partial goes on to mean the template of the environment. Every other name means what was
registered for it last, else what the environment has under it, whatever was done before.
-/
namespace DeferredViews.View

open Deferred Files Template

namespace Engine

/-- A partial whose name was loaded from the environment before, which still has the same source. -/
def heldBack (d : Engine) (name : String) : Bool :=
  (d.partials.lookup name).isSome &&
    (d.loaded.lookup name).any fun l => !l.isPartial && d.isCurrent name l

/-- The source that a name includes. -/
def source? (d : Engine) (name : String) : Option String :=
  if d.heldBack name then d.own.lookup name
  else (d.partials.lookup name).or (d.own.lookup name)

/-- The template that a name includes. -/
def included (d : Engine) (name : String) : Except SyntaxFault (Option Template) :=
  match d.source? name with
  | some source => (Template.compile d.autoescape (some name) source).map some
  | none => .ok none

/-- What an engine remembers are the templates of the sources that it remembers. -/
def Faithful (d : Engine) : Prop :=
  ∀ name l, d.loaded.lookup name = some l →
    Template.compile d.autoescape (some name) l.source = .ok l.template

/-- Where a template stands that is loaded afresh. -/
def Offers (d : Engine) (name : String) (l : Loaded) : Prop :=
  if l.isPartial then d.partials.lookup name = some l.source
  else d.partials.lookup name = none ∧ d.own.lookup name = some l.source

/-- What a render may make of an engine: its sources stay as they are, templates are remembered
that were loaded afresh, and none is forgotten that is current. -/
structure Grows (d d' : Engine) : Prop where
  autoescape : d'.autoescape = d.autoescape
  globals : d'.globals = d.globals
  partials : d'.partials = d.partials
  own : d'.own = d.own
  loaded : ∀ name l, d'.loaded.lookup name = some l → d.loaded.lookup name = some l ∨
    (Template.compile d.autoescape (some name) l.source = .ok l.template ∧ d.Offers name l)
  current : ∀ name l, d.loaded.lookup name = some l → d.isCurrent name l = true →
    d'.loaded.lookup name = some l

variable {d d' d'' : Engine} {name : String}

theorem isCurrent_congr (hpartials : d'.partials = d.partials) (hown : d'.own = d.own)
    (name : String) (l : Loaded) : d'.isCurrent name l = d.isCurrent name l := by
  rw [isCurrent, isCurrent, hpartials, hown]

theorem Offers.heldBack {l : Loaded} (h : d.Offers name l) (hloaded : d.loaded.lookup name = some l) :
    d.heldBack name = false := by
  rw [Offers] at h
  rw [Engine.heldBack, hloaded]
  split at h
  · next hpartial => simp [hpartial]
  · simp [h.1]

namespace Grows

theorem refl (d : Engine) : d.Grows d := ⟨rfl, rfl, rfl, rfl, fun _ _ => .inl, fun _ _ h _ => h⟩

theorem offers (h : d.Grows d') {l : Loaded} (hl : d'.Offers name l) : d.Offers name l := by
  rw [Offers, h.partials, h.own] at hl
  exact hl

theorem trans (h : d.Grows d') (k : d'.Grows d'') : d.Grows d'' where
  autoescape := k.autoescape.trans h.autoescape
  globals := k.globals.trans h.globals
  partials := k.partials.trans h.partials
  own := k.own.trans h.own
  loaded name l hl := by
    rcases k.loaded name l hl with hl | ⟨hcompile, hplace⟩
    · exact h.loaded name l hl
    · exact .inr ⟨h.autoescape ▸ hcompile, h.offers hplace⟩
  current name l hl hcurrent :=
    k.current name l (h.current name l hl hcurrent)
      ((isCurrent_congr h.partials h.own name l).trans hcurrent)

/-- A name that has no current template may be remembered anew. -/
theorem remember {l : Loaded} (hplace : d.Offers name l)
    (hcompile : Template.compile d.autoescape (some name) l.source = .ok l.template)
    (hstale : ∀ k, d.loaded.lookup name = some k → d.isCurrent name k = false) :
    d.Grows { d with loaded := bindName name l d.loaded } where
  autoescape := rfl
  globals := rfl
  partials := rfl
  own := rfl
  loaded other k hk := by
    by_cases hname : other = name
    · subst hname
      obtain rfl := Option.some.inj ((lookup_bindName_self other l d.loaded).symm.trans hk)
      exact .inr ⟨hcompile, hplace⟩
    · exact .inl ((lookup_bindName_of_ne l d.loaded hname).symm.trans hk)
  current other k hk hcurrent := by
    by_cases hname : other = name
    · subst hname
      rw [hstale k hk] at hcurrent
      cases hcurrent
    · exact (lookup_bindName_of_ne l d.loaded hname).trans hk

theorem loadFresh {found : Option Template}
    (hstale : ∀ k, d.loaded.lookup name = some k → d.isCurrent name k = false)
    (h : d.loadFresh name = .ok (d', found)) : d.Grows d' := by
  have hsource : ∀ (source : String) (isPartial : Bool),
      (∀ t, d.Offers name ⟨source, isPartial, t⟩) →
      ((d.loadSource name source isPartial).map fun x => (x.1, some x.2)) = .ok (d', found) →
      d.Grows d' := by
    intro source isPartial hplace hload
    rw [loadSource_eq] at hload
    cases hcompile : Template.compile d.autoescape (some name) source with
    | error f =>
      rw [hcompile] at hload
      cases hload
    | ok t =>
      rw [hcompile] at hload
      cases hload
      exact remember (hplace t) hcompile hstale
  rw [Engine.loadFresh] at h
  cases hpartial : d.partials.lookup name with
  | some source =>
    rw [hpartial] at h
    exact hsource source true (fun _ => hpartial) h
  | none =>
    rw [hpartial] at h
    cases hown : d.own.lookup name with
    | some source =>
      rw [hown] at h
      exact hsource source false (fun _ => ⟨hpartial, hown⟩) h
    | none =>
      rw [hown] at h
      cases h
      exact refl d

theorem load {found : Option Template} (h : d.load name = .ok (d', found)) : d.Grows d' := by
  rw [load_eq] at h
  cases hloaded : d.loaded.lookup name with
  | none =>
    rw [hloaded] at h
    exact loadFresh (fun k hk => by rw [hloaded] at hk; cases hk) h
  | some l =>
    rw [hloaded] at h
    dsimp only at h
    split at h
    · cases h
      exact refl d
    · next hcurrent =>
      refine loadFresh (fun k hk => ?_) h
      obtain rfl := Option.some.inj (hk.symm.trans hloaded)
      exact Bool.eq_false_iff.mpr hcurrent

theorem faithful (h : d.Grows d') (hd : d.Faithful) : d'.Faithful := by
  intro name l hl
  rw [h.autoescape]
  rcases h.loaded name l hl with hl | ⟨hcompile, -⟩
  · exact hd name l hl
  · exact hcompile

end Grows
end Engine

/-! ## What a render does to the engines -/

/-- A site whose engines have only grown. -/
structure Site.Grows (s t : Site) : Prop where
  length : t.engines.length = s.engines.length
  engine : ∀ e, (s.engine e).Grows (t.engine e)

namespace Site.Grows

variable {s t u : Site} {r : Request}

theorem refl (s : Site) : s.Grows s := ⟨rfl, fun e => .refl (s.engine e)⟩

/-- Only the engines count. -/
theorem aside (h : s.Grows t) (hengines : u.engines = t.engines) : s.Grows u := by
  have hengine : ∀ e, u.engine e = t.engine e := fun e => by rw [Site.engine, Site.engine, hengines]
  exact ⟨hengines ▸ h.length, fun e => hengine e ▸ h.engine e⟩

theorem setEngine (h : s.Grows t) {i : Nat} {d : Engine} (hd : (t.engine i).Grows d) :
    s.Grows (t.setEngine i d) := by
  have hlength : (t.setEngine i d).engines.length = t.engines.length := List.length_set
  refine ⟨hlength.trans h.length, fun e => (h.engine e).trans ?_⟩
  by_cases hne : i = e
  · subst hne
    rcases t.engine_setEngine i d with heq | heq
    · rw [heq]
      exact hd
    · rw [heq]
      exact .refl _
  · rw [t.engine_setEngine_of_ne d hne]
    exact .refl _

theorem count (h : s.Grows t) (i n : Nat) :
    s.Grows (t.setEngine i { t.engine i with compiles := n }) :=
  h.setEngine ⟨rfl, rfl, rfl, rfl, fun _ _ => .inl, fun _ _ hl _ => hl⟩

theorem loadFor (h : s.Grows t) (i : Nat) (name : String) : s.Grows (View.loadFor i name t).2 := by
  rw [View.loadFor]
  cases hload : (t.engine i).load name with
  | error f => exact h
  | ok x => exact h.setEngine (.load hload)

theorem runPage (h : s.Grows t) (q : Nat) (layout : Option Wrapping) (page : Compiled) :
    s.Grows (Stage.after (View.runPage r q layout page t)).2 :=
  runPage_keeps (fun _ _ _ _ hu => hu.aside rfl) (fun i name _ hu => hu.loadFor i name) r q layout
    page h

theorem startPage (h : s.Grows t) (q : Nat) (layout : Option Wrapping) :
    s.Grows (Stage.after (View.startPage r q layout t)).2 := by
  obtain ⟨log, hcached⟩ := cached?_apply r .file r.path t
  have hlog : s.Grows { t with log } := h.aside rfl
  rw [View.startPage, after_bind_apply, hcached]
  cases (t.cacheOf r.engine).get? Space.file.text r.path with
  | some c => exact hlog.runPage q layout c
  | none => exact hlog

theorem readAndKeep (h : s.Grows t) (space : Space) (key path : String) {f : Compiled → Work Stage}
    (hnext : ∀ c u, s.Grows u → s.Grows (Stage.after (f c u)).2) :
    s.Grows (Stage.after (((readTemplate path >>= compileFile r.engine path) >>= fun c =>
      keep r space key c >>= fun _ => f c) t)).2 := by
  obtain ⟨n, htemplate⟩ := template_apply t r.engine path
  have hread := h.count r.engine n
  rw [after_bind_apply, htemplate]
  cases t.template r.engine path with
  | error stop => exact hread
  | ok c =>
    obtain ⟨log, hkeep⟩ := keep_apply r space key c (t.setEngine r.engine _)
    dsimp only
    rw [after_bind_apply, hkeep]
    exact hnext c _ (hread.aside rfl)

/-- A render makes the engines only grow, wherever it stands. -/
theorem step (h : s.Grows t) (r : Request) (stage : Stage) : s.Grows (stage.step r t).2 := by
  cases stage with
  | opening =>
    have hopened : ∀ log, s.Grows { t.opened with log } := fun _ => h.aside rfl
    have hopens := step_opens r t
    generalize Stage.step r .opening t = y at hopens ⊢
    cases hopens with
    | undecided => exact h
    | wanting log => exact hopened log
    | page log => exact (hopened log).startPage _ _
    | layout log => exact hopened log
  | readingLayout q name path =>
    rw [Stage.step_eq, work_readingLayout]
    exact h.readAndKeep .layout name path.text fun c u hu => hu.startPage q _
  | readingPage q layout =>
    rw [Stage.step_eq, work_readingPage]
    exact h.readAndKeep .file r.path r.path fun c u hu => hu.runPage q layout c
  | ended x => exact h
  | settling q page rounds w =>
    obtain ⟨x, activity, log, hstep⟩ | ⟨v, activity, hstep⟩ :=
      step_settling_site (s := t) r page q rounds w
    · rw [hstep]
      exact h.aside rfl
    · rw [hstep]
      exact h.aside rfl

theorem runStages (h : s.Grows t) (r : Request) (n : Nat) (stage : Stage) :
    s.Grows (View.runStages r n stage t).2 := by
  induction n generalizing stage t with
  | zero => exact h
  | succ n ih =>
    rw [View.runStages]
    split
    · exact h
    · exact ih (h.step r stage) _

end Site.Grows
end DeferredViews.View
