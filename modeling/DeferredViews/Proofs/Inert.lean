import DeferredViews.Proofs.Parts

/-!
# What a render keeps

A render counts and notes, fills its registry, sets the `body` of its options, and may keep the page
and the layout that it read. A property of sites that none of this breaks holds at every stage of the
render, however far it goes and however it ends.
-/
namespace DeferredViews.View

open Deferred Files Template

/-- A property of sites that nothing breaks which a render does, if every layout that it reads is one
of those found. -/
structure Inert (r : Request) (Found : String → Path → Prop) (P : Site → Prop) : Prop where
  aside : ∀ s activity log, P s → P { s with activity, log }
  engine : ∀ s n d, d.Alike (s.engine n) → P s → P (s.setEngine n d)
  body : ∀ s v, P s → P (s.setOption r.options "body" v)
  page : ∀ s c, s.template r.engine r.path = .ok c → P s →
    P (s.setCacheOf r.engine
      ((s.cacheOf r.engine).put Space.file.text r.path c (s.caching r)).2)
  layout : ∀ s name path c, Found name path → s.template r.engine path.text = .ok c → P s →
    P (s.setCacheOf r.engine
      ((s.cacheOf r.engine).put Space.layout.text name c (s.caching r)).2)

/-- A render underway on a site with such a property. -/
structure Underway (r : Request) (Found : String → Path → Prop) (P : Site → Prop)
    (x : Stage × Site) : Prop where
  holds : P x.2
  opening : x.1 = .opening → ∀ y path, r.search? x.2 = some y →
    y.file? x.2.files = .ok (some path) → Found y.name path
  readingLayout : ∀ q name path, x.1 = .readingLayout q name path → Found name path

namespace Inert

variable {r : Request} {Found : String → Path → Prop} {P : Site → Prop} {s : Site}

/-- A render that is not about to find or to read a layout. -/
theorem elsewhere {stage : Stage} (h : P s) (hopening : stage ≠ .opening)
    (hreading : ∀ q name path, stage ≠ .readingLayout q name path) :
    Underway r Found P (stage, s) :=
  ⟨h, fun heq => absurd heq hopening, fun q name path heq => absurd heq (hreading q name path)⟩

theorem ended (x : Except Stop String) (h : P s) : Underway r Found P (.ended x, s) :=
  elsewhere h (by simp) (by simp)

theorem settling (q : Nat) (page : String) (rounds : Nat) (w : Settling) (h : P s) :
    Underway r Found P (.settling q page rounds w, s) :=
  elsewhere h (by simp) (by simp)

theorem runPage (hP : Inert r Found P) (q : Nat) (layout : Option Wrapping) (page : Compiled)
    (h : P s) : Underway r Found P (Stage.after (View.runPage r q layout page s)) := by
  have hpage : P (pageText r q layout page s).2 := by
    refine pageText_keeps ?_ ?_ ?_ layout page h
    · exact fun f args kwargs t ht => hP.aside t _ t.log ht
    · intro e name t ht
      rw [loadFor]
      cases hload : (t.engine e).load name with
      | error f => exact ht
      | ok x => exact hP.engine t e x.1 (Engine.alike_of_load hload).1 ht
    · exact fun v t ht => hP.body t v ht
  obtain ⟨e, t, htext, hafter⟩ | ⟨html, t, log, htext, -, hafter⟩ |
    ⟨html, t, f, htext, -, -, hafter⟩ | ⟨html, t, deadline, htext, -, -, hafter⟩ :=
      after_runPage_cases r q layout page s
  all_goals rw [htext] at hpage
  all_goals rw [hafter]
  · exact ended _ hpage
  · exact ended _ (hP.aside _ _ _ hpage)
  · exact ended _ (hP.aside _ _ _ hpage)
  · exact settling q html 0 _ (hP.aside _ _ _ hpage)

theorem startPage (hP : Inert r Found P) (q : Nat) (layout : Option Wrapping) (h : P s) :
    Underway r Found P (Stage.after (View.startPage r q layout s)) := by
  obtain ⟨log, hcached⟩ := cached?_apply r .file r.path s
  have hlog : P { s with log } := hP.aside s s.activity log h
  rw [View.startPage, after_bind_apply, hcached]
  cases (s.cacheOf r.engine).get? Space.file.text r.path with
  | some c => exact hP.runPage q layout c hlog
  | none => exact elsewhere hlog (by simp) (by simp)

theorem readAndKeep (hP : Inert r Found P) {space : Space} {key path : String}
    {f : Compiled → Work Stage}
    (hkept : ∀ t c, t.template r.engine path = .ok c → P t →
      P (t.setCacheOf r.engine ((t.cacheOf r.engine).put space.text key c (t.caching r)).2))
    (hnext : ∀ c t, P t → Underway r Found P (Stage.after (f c t))) (h : P s) :
    Underway r Found P (Stage.after
      (((readTemplate path >>= compileFile r.engine path) >>= fun c =>
        keep r space key c >>= fun _ => f c) s)) := by
  obtain ⟨n, htemplate⟩ := template_apply s r.engine path
  have hcompiled := ((Site.Near.refl s).count r.engine n).template r.engine path
  have hread := hP.engine s r.engine _ (Engine.alike_compiles (s.engine r.engine) n) h
  rw [after_bind_apply, htemplate, ← hcompiled]
  generalize s.setEngine r.engine _ = t at hread ⊢
  cases hc : t.template r.engine path with
  | error stop => exact ended _ hread
  | ok c =>
    obtain ⟨log, hkeep⟩ := keep_apply r space key c t
    dsimp only
    rw [after_bind_apply, hkeep]
    exact hnext c _ (hP.aside _ _ log (hkept t c hc hread))

end Inert

namespace Underway

variable {r : Request} {Found : String → Path → Prop} {P : Site → Prop} {s : Site}

theorem step {stage : Stage} (h : Underway r Found P (stage, s)) (hP : Inert r Found P) :
    Underway r Found P (stage.step r s) := by
  have hs := h.holds
  cases stage with
  | opening =>
    have haside := fun activity log => hP.aside s activity log hs
    have hopens := step_opens r s
    generalize Stage.step r .opening s = y at hopens ⊢
    cases hopens with
    | undecided => exact Inert.ended _ hs
    | wanting log => exact Inert.ended _ (haside _ log)
    | page log => exact hP.startPage _ _ (haside _ log)
    | layout log hreads =>
      refine ⟨haside _ log, nofun, ?_⟩
      rintro q name path ⟨⟩
      exact h.opening rfl _ _ hreads.search hreads.file
  | readingLayout q name path =>
    have hfound := h.readingLayout q name path rfl
    rw [Stage.step_eq, work_readingLayout]
    exact hP.readAndKeep (fun t c hc ht => hP.layout t name path c hfound hc ht)
      (fun c t ht => hP.startPage q _ ht) hs
  | readingPage q layout =>
    rw [Stage.step_eq, work_readingPage]
    exact hP.readAndKeep hP.page (fun c t ht => hP.runPage q layout c ht) hs
  | settling q page rounds w =>
    cases hdeadline : deadlineOf (s.engine r.engine).timeout with
    | error f =>
      rw [step_settling_error r page q rounds w hdeadline]
      exact Inert.ended _ hs
    | ok deadline =>
      cases hresult : (w.advance (some q) deadline rounds s.activity).1.result? with
      | none =>
        rw [step_settling_none r page q rounds w hdeadline hresult]
        exact Inert.settling q page (rounds + 1) _ (hP.aside s _ s.log hs)
      | some settled =>
        obtain ⟨log, hstep⟩ := step_settling_some r page q rounds w hdeadline hresult
        rw [hstep]
        exact Inert.ended _ (hP.aside s _ log hs)
  | ended x => exact h

theorem runStages {stage : Stage} (h : Underway r Found P (stage, s)) (hP : Inert r Found P)
    (n : Nat) : Underway r Found P (View.runStages r n stage s) := by
  induction n generalizing stage s with
  | zero => exact h
  | succ n ih =>
    rw [View.runStages]
    split
    · exact h
    · exact ih (h.step hP)

theorem cancel {stage : Stage} (h : Underway r Found P (stage, s)) :
    Underway r Found P (stage.cancel, s) := by
  cases stage with
  | settling q page rounds w => exact Inert.settling q page rounds w.cancel h.holds
  | _ => exact Inert.ended _ h.holds

end Underway

/-- To set `body` changes no other option, and no other options. -/
theorem get?_setOption_body (s : Site) (o q : Nat) (v : Value) {name : String}
    (hname : name ≠ "body") :
    ((s.setOption o "body" v).optionsAt q).get? name = (s.optionsAt q).get? name := by
  by_cases hoq : o = q
  · subst hoq
    by_cases hroom : o < s.options.length
    · rw [s.optionsAt_setOption_self o "body" v hroom]
      exact (s.optionsAt o).get?_set_of_ne v hname
    · rw [Site.setOption, List.set_eq_of_length_le (Nat.le_of_not_lt hroom)]
  · rw [s.optionsAt_setOption_of_ne "body" v hoq]

/-- A render changes no option but `body`. -/
theorem get?_optionsAt_render (r : Request) (s : Site) (o : Nat) {name : String}
    (hname : name ≠ "body") :
    ((render r s).2.optionsAt o).get? name = (s.optionsAt o).get? name := by
  have hinert : Inert r (fun _ _ => True) fun t =>
      (t.optionsAt o).get? name = (s.optionsAt o).get? name :=
    { aside := fun _ _ _ h => h
      engine := fun _ _ _ _ h => h
      body := fun t v h => (get?_setOption_body t r.options o v hname).trans h
      page := fun _ _ _ h => h
      layout := fun _ _ _ _ _ _ h => h }
  have hbegun : Underway r (fun _ _ => True)
      (fun t => (t.optionsAt o).get? name = (s.optionsAt o).get? name) (.opening, s) :=
    ⟨rfl, fun _ _ _ _ _ => trivial, nofun⟩
  exact (hbegun.runStages hinert (patience s)).holds

theorem rootsOf_congr {o o' : Locals} (h : o'.get? "settings" = o.get? "settings") :
    rootsOf o' = rootsOf o := by
  rw [rootsOf, rootsOf, settingsOf_congr h]

/-- Where a render looks for its layout is told by two options. -/
theorem search?_congr (r : Request) {s t : Site}
    (h : ∀ name, name ≠ "body" →
      (t.optionsAt r.options).get? name = (s.optionsAt r.options).get? name) :
    r.search? t = r.search? s := by
  have hlayout := h "layout" (by decide)
  have hsettings := h "settings" (by decide)
  rw [Request.search?, Request.search?, ofOptions_congr hlayout hsettings]
  cases LayoutDecision.ofOptions (s.optionsAt r.options) with
  | error f => rfl
  | ok decision =>
    dsimp only
    refine congrArg (Option.map · decision.name?) ?_
    funext name
    rw [Request.search, Request.search, rootsOf_congr hsettings]

end DeferredViews.View
