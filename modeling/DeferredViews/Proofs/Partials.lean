import DeferredViews.Proofs.Includes
import DeferredViews.Proofs.Leaks

/-!
# Partials over the life of an engine

Renders go on stage by stage, partials are registered singly and by directories, files and the
templates of an environment change. Whatever the order is, a name that was not included from the
environment before it was registered means the source that was registered for it last, and every
template includes what the names mean at that time.
-/
namespace DeferredViews.View

open Deferred Files Template

/-! ## Templates whose includes are settled beforehand -/

/-- What a template that includes a name is told. -/
def Engine.found (d : Engine) (name : String) : Except Interrupt (Option Template) :=
  match d.included name with
  | .ok found => .ok found
  | .error f => .error (.fault (.syntaxError f))

inductive Occurrence where
  /-- Some render goes on by a stage, however far it has come. -/
  | step (r : Request) (stage : Stage)
  /-- Something is done with an engine or with the files. -/
  | happening (e : Nat) (x : Happening)
  /-- The environment of an engine gets other templates. -/
  | environment (e : Nat) (own : List (String × String))

namespace Occurrence

def perform (s : Site) : Occurrence → Site
  | step r stage => (stage.step r s).2
  | happening e x => x.perform e s
  | environment e own => s.setEngine e { s.engine e with own }

/-- Whether templates are run. -/
def renders : Occurrence → Bool
  | step _ _ => true
  | happening e x => (x.request? e).isSome
  | environment _ _ => false

/-- The partials that are registered with an engine, in order. -/
def sources (e : Nat) (s : Site) : Occurrence → List (String × String)
  | happening d (.operation (.registerPartial name source)) =>
    if d = e then [(name, source)] else []
  | happening d (.registerPartials directory) =>
    if d = e then partialsIn s.files (s.engine d).partialExtensions directory else []
  | _ => []

end Occurrence

/-- A site after what occurred on it. -/
def Site.along (s : Site) (course : List Occurrence) : Site :=
  course.foldl Occurrence.perform s

/-- The partials that are registered with an engine in a course, in order. -/
def registered (e : Nat) : List Occurrence → Site → List (String × String)
  | [], _ => []
  | x :: more, s => x.sources e s ++ registered e more (x.perform s)

theorem registered_append (e : Nat) (course more : List Occurrence) (s : Site) :
    registered e (course ++ more) s = registered e course s ++ registered e more (s.along course) := by
  induction course generalizing s with
  | nil => rfl
  | cons x rest ih =>
    rw [List.cons_append, registered, registered, ih, List.append_assoc]
    rfl

/-- A site on which an engine got some partials, but remembers what it remembered. -/
structure Site.Furnishes (s : Site) (e : Nat) (sources : List (String × String)) (t : Site) :
    Prop where
  length : t.engines.length = s.engines.length
  autoescape : (t.engine e).autoescape = (s.engine e).autoescape
  loaded : (t.engine e).loaded = (s.engine e).loaded
  partials : ∀ name, (t.engine e).partials.lookup name =
    (sources.reverse.lookup name).or ((s.engine e).partials.lookup name)

namespace Site.Furnishes

variable {s t u : Site} {e : Nat} {sources : List (String × String)}

/-- Only the engines count. -/
theorem aside (h : s.Furnishes e sources t) (hengines : u.engines = t.engines) :
    s.Furnishes e sources u := by
  have hengine : u.engine e = t.engine e := by rw [Site.engine, Site.engine, hengines]
  exact ⟨hengines ▸ h.length, hengine ▸ h.autoescape, hengine ▸ h.loaded, hengine ▸ h.partials⟩

theorem refl (s : Site) (e : Nat) : s.Furnishes e [] s := ⟨rfl, rfl, rfl, fun _ => rfl⟩

/-- An engine may be changed, which may be another one. -/
theorem setEngine (hroom : e < s.engines.length) (i : Nat) {d : Engine}
    (hautoescape : d.autoescape = (s.engine i).autoescape) (hloaded : d.loaded = (s.engine i).loaded)
    (hpartials : ∀ name, d.partials.lookup name =
      (sources.reverse.lookup name).or ((s.engine i).partials.lookup name)) :
    s.Furnishes e (if i = e then sources else []) (s.setEngine i d) := by
  have hlength : (s.setEngine i d).engines.length = s.engines.length := List.length_set
  by_cases hne : i = e
  · subst hne
    have hself := s.engine_setEngine_self i d hroom
    rw [if_pos rfl]
    refine ⟨hlength, ?_, ?_, fun name => ?_⟩
    all_goals rw [hself]
    · exact hautoescape
    · exact hloaded
    · exact hpartials name
  · have hother := s.engine_setEngine_of_ne d hne
    rw [if_neg hne]
    refine ⟨hlength, ?_, ?_, fun name => ?_⟩
    all_goals rw [hother]
    rfl

end Site.Furnishes

namespace Occurrence

variable {s : Site} {e : Nat} {x : Occurrence}

/-- What runs templates makes the engines only grow. -/
theorem grows_perform (hx : x.renders = true) : s.Grows (x.perform s) := by
  have hbegun := Site.Grows.refl s
  cases x with
  | step r stage => exact hbegun.step r stage
  | environment i own => cases hx
  | happening i x =>
    cases x with
    | files tree => cases hx
    | registerPartials directory => cases hx
    | operation op =>
      cases op with
      | render path options => exact hbegun.runStages _ _ _
      | cancelledRender path options stages rest =>
        exact (hbegun.runStages _ stages _).runStages _ rest _
      | _ => cases hx

theorem sources_eq_nil (e : Nat) (s : Site) (hx : x.renders = true) : x.sources e s = [] := by
  cases x with
  | step r stage => rfl
  | environment i own => rfl
  | happening i x =>
    cases x with
    | files tree => rfl
    | registerPartials directory => cases hx
    | operation op => cases op <;> first | rfl | cases hx

/-- What runs no templates leaves an engine what it remembers, and gives it the partials that are
registered. -/
theorem furnishes_perform (hroom : e < s.engines.length) (hx : x.renders = false) :
    s.Furnishes e (x.sources e s) (x.perform s) := by
  have hbegun := Site.Furnishes.refl s e
  -- An engine that gets no partials may get anything else but what it remembers.
  have hset : ∀ i (d : Engine), d.autoescape = (s.engine i).autoescape →
      d.loaded = (s.engine i).loaded → d.partials = (s.engine i).partials →
      s.Furnishes e [] (s.setEngine i d) := by
    intro i d hautoescape hloaded hpartials
    have hsame : s.Furnishes e (if i = e then [] else []) (s.setEngine i d) :=
      .setEngine hroom i hautoescape hloaded fun name => congrArg (·.lookup name) hpartials
    rwa [ite_self] at hsame
  cases x with
  | step r stage => cases hx
  | environment i own => exact hset i _ rfl rfl rfl
  | happening i x =>
    cases x with
    | files tree => exact hbegun.aside rfl
    | registerPartials directory =>
      obtain ⟨log, hsite⟩ := registerPartials_site i directory s
      show s.Furnishes e _ (View.registerPartials i directory s).2
      rw [hsite]
      refine Site.Furnishes.aside (Site.Furnishes.setEngine hroom i ?_ ?_ ?_) rfl
      · rw [setPartials_eq]
      · rw [setPartials_eq]
      · exact lookup_setPartials (s.engine i) _
    | operation op =>
      cases op with
      | render path options => cases hx
      | cancelledRender path options stages rest => cases hx
      | clearCache => exact hbegun.aside rfl
      | setOptions options => exact hbegun.aside rfl
      | registerHelper name helper =>
        have hglobal := hset i ((s.engine i).setGlobal name
          (.function (.immediate (s.activity.addHelper helper).1))) rfl rfl rfl
        exact hglobal.aside rfl
      | registerDeferred name helper =>
        have hglobal := hset i ((s.engine i).setGlobal name
          (.function (.deferred name (s.activity.addHelper helper).1))) rfl rfl rfl
        exact hglobal.aside rfl
      | registerPartial name source =>
        exact .setEngine hroom i rfl rfl (lookup_setPartials (s.engine i) [(name, source)])

end Occurrence

/-! ## After a course -/

/-- A site with an engine that has no partials and remembers nothing yet. -/
structure Site.Unused (s : Site) (e : Nat) : Prop where
  room : e < s.engines.length
  partials : (s.engine e).partials = []
  loaded : (s.engine e).loaded = []

/-- Before a name was registered, templates were run while the environment had a source for it. -/
def Site.RanEarly (s₀ : Site) (e : Nat) (course : List Occurrence) (name source : String) : Prop :=
  ∃ before x after, course = before ++ x :: after ∧ x.renders = true ∧
    (registered e before s₀).reverse.lookup name = none ∧
    ((s₀.along before).engine e).own.lookup name = some source

/-- What is known of an engine after a course. -/
structure Lived (s₀ : Site) (e : Nat) (course : List Occurrence) (s : Site) : Prop where
  room : e < s.engines.length
  partials : ∀ name,
    (s.engine e).partials.lookup name = (registered e course s₀).reverse.lookup name
  faithful : (s.engine e).Faithful
  early : ∀ name l, (s.engine e).loaded.lookup name = some l → l.isPartial = false →
    s₀.RanEarly e course name l.source

namespace Lived

variable {s₀ : Site} {e : Nat} {course : List Occurrence}

theorem begin (h : s₀.Unused e) : Lived s₀ e [] s₀ := by
  refine ⟨h.room, fun name => ?_, fun name l hl => ?_, fun name l hl => ?_⟩
  · rw [h.partials]
    rfl
  · rw [h.loaded] at hl
    cases hl
  · rw [h.loaded] at hl
    cases hl

/-- What was early in a course is early in a longer one. -/
theorem ranEarly_snoc {name source : String} (x : Occurrence)
    (h : s₀.RanEarly e course name source) : s₀.RanEarly e (course ++ [x]) name source := by
  obtain ⟨before, y, after, rfl, hy⟩ := h
  exact ⟨before, y, after ++ [x], by simp, hy⟩

theorem perform (h : Lived s₀ e course (s₀.along course)) (x : Occurrence) :
    Lived s₀ e (course ++ [x]) (x.perform (s₀.along course)) := by
  have hregistered : registered e (course ++ [x]) s₀ =
      registered e course s₀ ++ x.sources e (s₀.along course) := by
    rw [registered_append, registered, registered, List.append_nil]
  cases hrenders : x.renders with
  | true =>
    have hgrows : (s₀.along course).Grows (x.perform (s₀.along course)) :=
      Occurrence.grows_perform hrenders
    have hengine := hgrows.engine e
    rw [Occurrence.sources_eq_nil e _ hrenders, List.append_nil] at hregistered
    refine ⟨hgrows.length.symm ▸ h.room, fun name => ?_, hengine.faithful h.faithful, ?_⟩
    · rw [hengine.partials, hregistered]
      exact h.partials name
    · intro name l hl hpartial
      rcases hengine.loaded name l hl with hl | ⟨-, hplace⟩
      · exact ranEarly_snoc x (h.early name l hl hpartial)
      -- What is remembered anew stood in the environment, and was no partial.
      · rw [Engine.Offers, hpartial, if_neg Bool.false_ne_true, h.partials] at hplace
        exact ⟨course, x, [], rfl, hrenders, hplace⟩
  | false =>
    have hnext := Occurrence.furnishes_perform h.room hrenders
    refine ⟨hnext.length.symm ▸ h.room, fun name => ?_, fun name l hl => ?_, ?_⟩
    · rw [hnext.partials, h.partials, hregistered, List.reverse_append, List.lookup_append]
    · rw [hnext.loaded] at hl
      rw [hnext.autoescape]
      exact h.faithful name l hl
    · intro name l hl hpartial
      rw [hnext.loaded] at hl
      exact ranEarly_snoc x (h.early name l hl hpartial)

theorem along (h : Lived s₀ e course (s₀.along course)) (more : List Occurrence) :
    Lived s₀ e (course ++ more) (s₀.along (course ++ more)) := by
  -- One occurrence at a time goes over to the course, so what was early stays where it was.
  induction more generalizing course with
  | nil =>
    rw [List.append_nil]
    exact h
  | cons x rest ih =>
    have hstep : s₀.along (course ++ [x]) = x.perform (s₀.along course) := List.foldl_append
    rw [List.append_cons]
    exact ih (hstep ▸ h.perform x)

end Lived

end DeferredViews.View
