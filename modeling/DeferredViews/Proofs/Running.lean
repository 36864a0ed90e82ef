import DeferredViews.Proofs.Loading
import DeferredViews.Proofs.Page
import DeferredViews.Proofs.SameHost

/-!
# What running a template does to a site

A template calls functions and loads included templates, and does nothing else to the site. So what
no call and no load changes stays as it is, and two sites on which calls and loads come to the same
make a template print the same.
-/
namespace DeferredViews.View

open Deferred Template

theorem activity_loadFor (e : Nat) (name : String) (s : Site) :
    (loadFor e name s).2.activity = s.activity := by
  rw [loadFor]
  cases (s.engine e).load name <;> rfl

theorem options_loadFor (e : Nat) (name : String) (s : Site) :
    (loadFor e name s).2.options = s.options := by
  rw [loadFor]
  cases (s.engine e).load name <;> rfl

/-- Loading fails with a fault. -/
theorem loadFor_error {E : Interrupt → Prop} (hfault : ∀ f, E (.fault f)) (e : Nat) (name : String)
    (s : Site) : ∀ i, (loadFor e name s).1 = .error i → E i := by
  intro i hi
  rw [loadFor] at hi
  split at hi
  · cases hi
  · cases hi
    exact hfault _

/-- What runs to the same ends a part of a render alike. -/
theorem execute_of_run {J : Site → Site → Prop} {r : Request} {q p : Nat} {c : Compiled}
    {s t : Site} (name : String)
    (h : (c.run (some q) (s.optionsAt r.options) s).1 =
        (c.run (some p) (t.optionsAt r.options) t).1 ∧
      J (c.run (some q) (s.optionsAt r.options) s).2 (c.run (some p) (t.optionsAt r.options) t).2) :
    (execute r q c name s).1 = (execute r p c name t).1 ∧
      J (execute r q c name s).2 (execute r p c name t).2 := by
  rw [execute_apply, execute_apply]
  revert h
  generalize c.run (some q) _ s = x
  generalize c.run (some p) _ t = y
  obtain ⟨result, s'⟩ := x
  obtain ⟨result', t'⟩ := y
  rintro ⟨hresult, hnext⟩
  dsimp only at hresult
  subst hresult
  cases result with
  | ok out => exact ⟨rfl, hnext⟩
  | error e => cases e <;> exact ⟨rfl, hnext⟩

section Alike

variable {I : Site → Site → Prop} {q p : Nat}
  (hengines : ∀ s t, I s t → ∀ e, (s.engine e).Alike (t.engine e) ∧
    (s.engine e).globals = (t.engine e).globals)
  (hset : ∀ s t e d d', I s t → d.Alike (s.engine e) ∧ d.globals = (s.engine e).globals →
    d'.Alike (t.engine e) ∧ d'.globals = (t.engine e).globals →
    I (s.setEngine e d) (t.setEngine e d'))
  (hcall : ∀ f args kwargs s t, I s t →
    (callNow (some q) f args kwargs s.activity).1 = (callNow (some p) f args kwargs t.activity).1 ∧
      I { s with activity := (callNow (some q) f args kwargs s.activity).2 }
        { t with activity := (callNow (some p) f args kwargs t.activity).2 })

include hengines hset

/-- Engines that are alike load the same templates. -/
theorem loadFor_alike (e : Nat) (name : String) {s t : Site} (h : I s t) :
    (loadFor e name s).1 = (loadFor e name t).1 ∧
      I (loadFor e name s).2 (loadFor e name t).2 := by
  rw [loadFor, loadFor]
  obtain ⟨f, hs, ht⟩ | ⟨x, y, hs, ht, hfound⟩ := (hengines s t h e).1.load_cases name
  · rw [hs, ht]
    exact ⟨rfl, h⟩
  · rw [hs, ht]
    exact ⟨congrArg Except.ok hfound,
      hset s t e x.1 y.1 h (Engine.alike_of_load hs) (Engine.alike_of_load ht)⟩

include hcall

/-- Where calls and loads come to the same, a template prints the same. -/
theorem run_alike (c : Compiled) (locals : Locals) {s t : Site} (h : I s t) :
    (c.run (some q) locals s).1 = (c.run (some p) locals t).1 ∧
      I (c.run (some q) locals s).2 (c.run (some p) locals t).2 := by
  -- Each host is made of its engine as it stands before the run.
  have hengine := hengines s t h c.engine
  have hhost : Host.Alike (fun _ => True) I (hostFor c.engine (s.engine c.engine) (some q))
      (hostFor c.engine (t.engine c.engine) (some p)) := by
    refine ⟨hengine.1.autoescape, hengine.2, fun _ => trivial, ?_, ?_⟩
    · intro f args kwargs u v huv
      obtain ⟨hsame, hnext⟩ := hcall f args kwargs u v huv
      exact ⟨hsame, hnext, fun _ _ => trivial⟩
    · intro name u v huv
      obtain ⟨hsame, hnext⟩ := loadFor_alike hengines hset c.engine name huv
      exact ⟨hsame, hnext, fun _ _ => trivial⟩
  obtain ⟨hsame, hnext, _⟩ := run_same hhost c.template locals s t h
  exact ⟨hsame, hnext⟩

end Alike

/-- Two sites on which templates run alike: engines that are alike, with the same globals, and the
same activity. -/
structure Site.Twin (s t : Site) : Prop where
  engines : ∀ d, (s.engine d).Alike (t.engine d) ∧ (s.engine d).globals = (t.engine d).globals
  activity : s.activity = t.activity

theorem Site.Twin.run {s t : Site} (h : s.Twin t) (q : Nat) (c : Compiled) (locals : Locals) :
    (c.run (some q) locals s).1 = (c.run (some q) locals t).1 ∧
      (c.run (some q) locals s).2.Twin (c.run (some q) locals t).2 := by
  refine run_alike (I := Site.Twin) (fun _ _ h => h.engines) ?_ ?_ c locals h
  · intro a b e d d' hab hd hd'
    refine { hab with engines := fun n => ?_ }
    have ha := a.alike_setEngine hd n
    have hb := b.alike_setEngine hd' n
    have hn := hab.engines n
    exact ⟨ha.1.trans (hn.1.trans hb.1.symm), ha.2.trans (hn.2.trans hb.2.symm)⟩
  · intro f args kwargs a b hab
    rw [hab.activity]
    exact ⟨rfl, { hab with activity := rfl }⟩

/-- A template leaves what its calls and loads leave, and is interrupted by a fault or by a call. -/
theorem run_ends {E : Interrupt → Prop} {P : Site → Prop} {scope : Option Nat}
    (hfault : ∀ f, E (.fault f))
    (hcall : ∀ f args kwargs s, P s → P (onActivity (callNow scope f args kwargs) s).2 ∧
      ∀ e, (callNow scope f args kwargs s.activity).1 = .error e → E e)
    (hload : ∀ e name s, P s → P (loadFor e name s).2) (c : Compiled) (locals : Locals) {s : Site}
    (h : P s) :
    P (c.run scope locals s).2 ∧ ∀ e, (c.run scope locals s).1 = .error e → E e := by
  have hhost : Host.Alike E (fun s t => s = t ∧ P s)
      (hostFor c.engine (s.engine c.engine) scope)
      (hostFor c.engine (s.engine c.engine) scope) := by
    refine ⟨rfl, rfl, hfault, ?_, ?_⟩
    · rintro f args kwargs u _ ⟨rfl, hu⟩
      obtain ⟨hkept, herror⟩ := hcall f args kwargs u hu
      exact ⟨rfl, ⟨rfl, hkept⟩, herror⟩
    · rintro name u _ ⟨rfl, hu⟩
      exact ⟨rfl, ⟨rfl, hload c.engine name u hu⟩, loadFor_error hfault c.engine name u⟩
  obtain ⟨_, hkept, herror⟩ := run_same hhost c.template locals s s ⟨rfl, h⟩
  exact ⟨hkept.2, herror⟩

/-- What a template leaves as it is: all that no call of a function and no load of an included
template changes. -/
theorem run_keeps {P : Site → Prop} {scope : Option Nat}
    (hcall : ∀ f args kwargs s, P s → P (onActivity (callNow scope f args kwargs) s).2)
    (hload : ∀ e name s, P s → P (loadFor e name s).2) (c : Compiled) (locals : Locals) {s : Site}
    (h : P s) : P (c.run scope locals s).2 :=
  (run_ends (E := fun _ => True) (fun _ => trivial)
    (fun f args kwargs s hs => ⟨hcall f args kwargs s hs, fun _ _ => trivial⟩) hload c locals h).1

section Keeps

variable {P : Site → Prop} {registry : Nat}
  (hcall : ∀ f args kwargs s, P s → P (onActivity (callNow (some registry) f args kwargs) s).2)
  (hload : ∀ e name s, P s → P (loadFor e name s).2)

include hcall hload

theorem execute_keeps (r : Request) (c : Compiled) (name : String) {s : Site} (h : P s) :
    P (execute r registry c name s).2 :=
  (execute_of_run (J := fun t _ => P t) name ⟨rfl, run_keeps hcall hload c _ h⟩).2

theorem pageText_keeps {r : Request} (hbody : ∀ v s, P s → P (s.setOption r.options "body" v))
    (layout : Option Wrapping) (page : Compiled) {s : Site} (h : P s) :
    P (pageText r registry layout page s).2 := by
  have hpage := execute_keeps hcall hload r page r.path h
  rw [pageText, bind_apply]
  revert hpage
  generalize execute r registry page r.path s = x
  obtain ⟨result, t⟩ := x
  intro hpage
  cases result with
  | error e => exact hpage
  | ok content =>
    cases layout with
    | none => exact hpage
    | some l =>
      exact execute_keeps hcall hload r l.compiled l.name (hbody (.markup content) t hpage)

end Keeps

/-- A site with engines like those of another one. -/
def Site.Akin (s t : Site) : Prop :=
  ∀ d, (t.engine d).Alike (s.engine d) ∧ (t.engine d).globals = (s.engine d).globals

theorem akin_loadFor (e : Nat) (name : String) {s t : Site} (h : s.Akin t) :
    s.Akin (loadFor e name t).2 := by
  rw [loadFor]
  cases hload : (t.engine e).load name with
  | error f => exact h
  | ok x =>
    intro n
    have hset := t.alike_setEngine (Engine.alike_of_load hload) n
    exact ⟨hset.1.trans (h n).1, hset.2.trans (h n).2⟩

/-- Templates leave engines as they are, but for the templates that these remember. -/
theorem akin_run (q : Nat) (c : Compiled) (locals : Locals) (s : Site) :
    s.Akin (c.run (some q) locals s).2 :=
  run_keeps (P := fun t => s.Akin t) (fun _ _ _ _ ht => ht) (fun e name _ ht => akin_loadFor e name ht)
    c locals fun _ => ⟨.refl _, rfl⟩

theorem akin_execute (r : Request) (q : Nat) (c : Compiled) (name : String) (s : Site) :
    s.Akin (execute r q c name s).2 :=
  (execute_of_run (J := fun t _ => s.Akin t) (t := s) name ⟨rfl, akin_run q c _ s⟩).2

/-- Templates leave the options as they are. -/
theorem execute_options (r : Request) (q : Nat) (c : Compiled) (name : String) (t : Site) :
    (execute r q c name t).2.options = t.options :=
  execute_keeps (P := fun u => u.options = t.options) (fun _ _ _ _ hu => hu)
    (fun e name u hu => (options_loadFor e name u).trans hu) r c name rfl

/-- What running a page keeps: all that no load changes, and that options, helpers and records have no
part in. -/
theorem runPage_keeps {P : Site → Prop}
    (haside : ∀ s options activity log, P s → P { s with options, activity, log })
    (hload : ∀ e name s, P s → P (loadFor e name s).2) (r : Request) (registry : Nat)
    (layout : Option Wrapping) (page : Compiled) {s : Site} (h : P s) :
    P (Stage.after (runPage r registry layout page s)).2 := by
  have hpage : P (pageText r registry layout page s).2 :=
    pageText_keeps (fun _ _ _ t ht => haside t t.options _ t.log ht) hload
      (fun _ t ht => haside t _ t.activity t.log ht) layout page h
  obtain ⟨stop, t, htext, hafter⟩ | ⟨html, t, log, htext, -, hafter⟩ |
    ⟨html, t, f, htext, -, -, hafter⟩ | ⟨html, t, deadline, htext, -, -, hafter⟩ :=
      after_runPage_cases r registry layout page s
  all_goals rw [htext] at hpage
  all_goals rw [hafter]
  · exact hpage
  · exact haside t t.options _ log hpage
  · exact haside t t.options _ t.log hpage
  · exact haside t t.options _ t.log hpage

section Calls

variable {P : Activity → Prop} {scope : Option Nat}
  (hputOff : ∀ a name i args kwargs, P a → P (a.putOff scope name i args kwargs).2)
  (hstart : ∀ a i h, P a → P (a.start i h).2)

include hputOff

theorem answer_keeps (reply : Reply) {a : Activity} (h : P a) : P (answer scope reply a).2 := by
  cases reply with
  | defer i args kwargs wrap =>
    have hnext := hputOff a "" i args kwargs h
    rw [answer]
    revert hnext
    generalize a.putOff scope "" i args kwargs = x
    obtain ⟨result, b⟩ := x
    intro hnext
    cases result <;> exact hnext
  | _ => exact h

include hstart

/-- What a call leaves as it is: all that starting a helper and putting a call off do not change. -/
theorem callNow_keeps (f : Callable) (args : List Value) (kwargs : Locals) {a : Activity}
    (h : P a) : P (callNow scope f args kwargs a).2 := by
  cases f with
  | deferred name i =>
    have hnext := hputOff a name i args kwargs h
    cases scope <;> exact hnext
  | immediate i =>
    rw [callNow_immediate]
    cases a.helpers[i]? with
    | none => exact h
    | some helper =>
      have hanswer := answer_keeps hputOff (helper.body ⟨args, kwargs, (a.start i helper).1⟩)
        (hstart a i helper h)
      dsimp only
      split
      · exact h
      · revert hanswer
        generalize answer scope _ _ = x
        obtain ⟨result, b⟩ := x
        intro hanswer
        cases result <;> exact hanswer

end Calls

/-- A page in its layout leaves of the activity what putting calls off and starting helpers leave. -/
theorem activity_pageText_keeps {P : Activity → Prop} {q : Nat}
    (hputOff : ∀ a name i args kwargs, P a → P (a.putOff (some q) name i args kwargs).2)
    (hstart : ∀ a i h, P a → P (a.start i h).2) (r : Request) (layout : Option Wrapping)
    (page : Compiled) {s : Site} (h : P s.activity) :
    P (pageText r q layout page s).2.activity := by
  refine pageText_keeps (P := fun t => P t.activity) ?_ ?_ ?_ layout page h
  · exact fun f args kwargs t ht => callNow_keeps hputOff hstart f args kwargs ht
  · intro e name t ht
    rw [activity_loadFor]
    exact ht
  · exact fun v t ht => ht

end DeferredViews.View
