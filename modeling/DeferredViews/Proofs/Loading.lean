import DeferredViews.View.Engine

/-!
# Loading included templates

An engine remembers the templates that it loaded, but what a name includes does not depend on what
was loaded before: loading a template changes an engine only in ways that no later load can see.
-/
namespace DeferredViews.View

/-- What two engines have in common that differ only in what they remember or count. -/
structure Engine.Alike (e d : Engine) : Prop where
  autoescape : e.autoescape = d.autoescape
  cache : e.cache = d.cache
  timeout : e.timeout = d.timeout
  load : ∀ name, (e.load name).map (·.2) = (d.load name).map (·.2)

namespace Engine

theorem Alike.refl (e : Engine) : e.Alike e := ⟨rfl, rfl, rfl, fun _ => rfl⟩

theorem Alike.symm {e d : Engine} (h : e.Alike d) : d.Alike e :=
  ⟨h.autoescape.symm, h.cache.symm, h.timeout.symm, fun name => (h.load name).symm⟩

theorem Alike.trans {e d c : Engine} (h : e.Alike d) (k : d.Alike c) : e.Alike c :=
  ⟨h.autoescape.trans k.autoescape, h.cache.trans k.cache, h.timeout.trans k.timeout,
    fun name => (h.load name).trans (k.load name)⟩

/-- Engines that are alike load the same template, or fail alike. -/
theorem Alike.load_cases {e d : Engine} (h : e.Alike d) (name : String) :
    (∃ f, e.load name = .error f ∧ d.load name = .error f) ∨
      ∃ x y, e.load name = .ok x ∧ d.load name = .ok y ∧ x.2 = y.2 := by
  have hload := h.load name
  cases he : e.load name with
  | error f =>
    rw [he] at hload
    cases hd : d.load name with
    | error g =>
      rw [hd] at hload
      cases hload
      exact .inl ⟨f, rfl, rfl⟩
    | ok y =>
      rw [hd] at hload
      cases hload
  | ok x =>
    rw [he] at hload
    cases hd : d.load name with
    | error g =>
      rw [hd] at hload
      cases hload
    | ok y =>
      rw [hd] at hload
      exact .inr ⟨x, y, rfl, rfl, Except.ok.inj hload⟩

/-- Load a name without looking at what was loaded before. -/
def loadFresh (e : Engine) (name : String) : Except SyntaxFault (Engine × Option Template) :=
  match e.partials.lookup name with
  | some source => (e.loadSource name source true).map fun x => (x.1, some x.2)
  | none =>
    match e.own.lookup name with
    | some source => (e.loadSource name source false).map fun x => (x.1, some x.2)
    | none => .ok (e, none)

theorem load_eq (e : Engine) (name : String) :
    e.load name =
      match e.loaded.lookup name with
      | some l => if e.isCurrent name l then .ok (e, some l.template) else e.loadFresh name
      | none => e.loadFresh name := rfl

theorem loadSource_eq (e : Engine) (name source : String) (isPartial : Bool) :
    e.loadSource name source isPartial =
      (Template.compile e.autoescape (some name) source).map fun t =>
        ({ e with loaded := bindName name ⟨source, isPartial, t⟩ e.loaded }, t) := by
  rw [loadSource]
  cases Template.compile e.autoescape (some name) source <;> rfl

/-- What a fresh load changes: nothing, or the entry of that name, which is then current. -/
theorem loadFresh_cases {e e' : Engine} {name : String} {found : Option Template}
    (h : e.loadFresh name = .ok (e', found)) :
    e' = e ∨ ∃ l, e' = { e with loaded := bindName name l e.loaded } ∧
      e.isCurrent name l = true ∧ found = some l.template := by
  rw [loadFresh] at h
  cases hpartial : e.partials.lookup name with
  | some source =>
    rw [hpartial] at h
    dsimp only at h
    rw [loadSource_eq] at h
    cases hcompile : Template.compile e.autoescape (some name) source with
    | error f =>
      rw [hcompile] at h
      cases h
    | ok template =>
      rw [hcompile] at h
      cases h
      refine .inr ⟨⟨source, true, template⟩, rfl, ?_, rfl⟩
      simp [isCurrent, hpartial]
  | none =>
    rw [hpartial] at h
    cases hown : e.own.lookup name with
    | some source =>
      rw [hown] at h
      dsimp only at h
      rw [loadSource_eq] at h
      cases hcompile : Template.compile e.autoescape (some name) source with
      | error f =>
        rw [hcompile] at h
        cases h
      | ok template =>
        rw [hcompile] at h
        cases h
        refine .inr ⟨⟨source, false, template⟩, rfl, ?_, rfl⟩
        simp [isCurrent, hown]
    | none =>
      rw [hown] at h
      cases h
      exact .inl rfl

theorem load_cases {e e' : Engine} {name : String} {found : Option Template}
    (h : e.load name = .ok (e', found)) :
    e' = e ∨ ∃ l, e' = { e with loaded := bindName name l e.loaded } ∧
      e.isCurrent name l = true ∧ found = some l.template := by
  rw [load_eq] at h
  split at h
  · split at h
    · cases h
      exact .inl rfl
    · exact loadFresh_cases h
  · exact loadFresh_cases h

/-- What a name includes, fresh, depends on the sources alone. -/
theorem loadFresh_congr {e d : Engine} (hescape : e.autoescape = d.autoescape)
    (hpartials : e.partials = d.partials) (hown : e.own = d.own) (name : String) :
    (e.loadFresh name).map (·.2) = (d.loadFresh name).map (·.2) := by
  rw [loadFresh, loadFresh, ← hpartials, ← hown]
  have hsource : ∀ (source : String) (isPartial : Bool),
      ((e.loadSource name source isPartial).map fun x => (x.1, some x.2)).map (·.2) =
        ((d.loadSource name source isPartial).map fun x => (x.1, some x.2)).map (·.2) := by
    intro source isPartial
    rw [loadSource_eq, loadSource_eq, ← hescape]
    cases Template.compile e.autoescape (some name) source <;> rfl
  cases e.partials.lookup name with
  | some source => exact hsource source true
  | none =>
    cases e.own.lookup name with
    | some source => exact hsource source false
    | none => rfl

theorem load_congr {e d : Engine} (hescape : e.autoescape = d.autoescape)
    (hpartials : e.partials = d.partials) (hown : e.own = d.own) {name : String}
    (hloaded : e.loaded.lookup name = d.loaded.lookup name) :
    (e.load name).map (·.2) = (d.load name).map (·.2) := by
  have hfresh := loadFresh_congr hescape hpartials hown name
  rw [load_eq, load_eq, ← hloaded]
  cases e.loaded.lookup name with
  | none => exact hfresh
  | some l =>
    have hcurrent : d.isCurrent name l = e.isCurrent name l := by
      rw [isCurrent, isCurrent, hpartials, hown]
    dsimp only
    rw [hcurrent]
    cases e.isCurrent name l with
    | true => rfl
    | false => exact hfresh

/-- Loading a template changes nothing that a later load can see. -/
theorem alike_of_load {e e' : Engine} {name : String} {found : Option Template}
    (h : e.load name = .ok (e', found)) : e'.Alike e ∧ e'.globals = e.globals := by
  rcases load_cases h with rfl | ⟨l, rfl, hcurrent, rfl⟩
  · exact ⟨.refl _, rfl⟩
  · refine ⟨⟨rfl, rfl, rfl, ?_⟩, rfl⟩
    intro other
    by_cases hname : other = name
    · subst hname
      have hlookup := lookup_bindName_self other l e.loaded
      rw [h, load_eq, hlookup]
      show Except.map _ (if e.isCurrent other l = true then _ else _) = _
      rw [if_pos hcurrent]
    · have hlookup := lookup_bindName_of_ne l e.loaded hname
      refine load_congr ?_ ?_ ?_ hlookup <;> rfl

/-- Counting a compilation changes nothing that a load can see. -/
theorem alike_compiles (e : Engine) (n : Nat) : ({ e with compiles := n } : Engine).Alike e := by
  refine ⟨rfl, rfl, rfl, ?_⟩
  intro name
  refine load_congr ?_ ?_ ?_ ?_ <;> rfl

end Engine

/-- To replace an engine by one that only counts or remembers more changes no engine but so. -/
theorem Site.alike_setEngine (s : Site) {e : Nat} {d : Engine}
    (h : d.Alike (s.engine e) ∧ d.globals = (s.engine e).globals) (n : Nat) :
    ((s.setEngine e d).engine n).Alike (s.engine n) ∧
      ((s.setEngine e d).engine n).globals = (s.engine n).globals := by
  by_cases hne : e = n
  · subst hne
    by_cases hroom : e < s.engines.length
    · rw [s.engine_setEngine_self e d hroom]
      exact h
    · have hsame : s.setEngine e d = s := by
        simp [setEngine, List.set_eq_of_length_le (Nat.le_of_not_lt hroom)]
      rw [hsame]
      exact ⟨.refl _, rfl⟩
  · rw [s.engine_setEngine_of_ne d hne]
    exact ⟨.refl _, rfl⟩

end DeferredViews.View
