import DeferredViews.Proofs.Leaks
import DeferredViews.Proofs.Locals
import DeferredViews.View.Direct

/-!
# Pages without helpers, rendered and run directly

A render runs its page in the scope of a registry, a direct run outside of all scopes. Where no call
is put off, the two runs ask the same questions and get the same answers, so they print the same text
or fail with the same fault; the render only tells which page it was. They part at the first call
that is put off, and the registry shows that it was.
-/
namespace DeferredViews.View

open Deferred Template

/-- Two sites on which templates come to the same as long as no call is put off. The first one holds
a registry without calls. -/
structure Site.Quiet (q : Nat) (s t : Site) : Prop where
  engines : ∀ d, (s.engine d).Alike (t.engine d) ∧ (s.engine d).globals = (t.engine d).globals
  helpers : s.activity.helpers = t.activity.helpers
  starts : s.activity.starts = t.activity.starts
  room : q < s.activity.registries.length
  pending : (s.activity.registry q).pending = []

/-- A registry has issued a placeholder. -/
def Site.Issued (q : Nat) (s : Site) : Prop := 0 < (s.activity.registry q).issued

section Parting

variable {q : Nat}

theorem issued_putOff {a : Activity} (name : String) (i : Nat) (args : List Value)
    (kwargs : Locals) (h : 0 < (a.registry q).issued) :
    0 < ((a.putOff (some q) name i args kwargs).2.registry q).issued := by
  rcases a.registry_setRegistry q ((a.registry q).register
      (if name.isEmpty then (a.helpers[i]?).elim "" (·.name) else name) i args kwargs).2 with hset | hset
  · exact hset ▸ Nat.succ_pos _
  · exact hset ▸ h

/-- A call that is put off shows. -/
theorem issued_register {a : Activity} (name : String) (i : Nat) (args : List Value)
    (kwargs : Locals) (h : q < a.registries.length) :
    0 < ((a.register q name i args kwargs).2.registry q).issued := by
  have hset := a.registry_setRegistry_self q ((a.registry q).register
    (if name.isEmpty then (a.helpers[i]?).elim "" (·.name) else name) i args kwargs).2 h
  exact hset ▸ Nat.succ_pos _

/-- A call comes to the same in a scope and outside of all, unless it is put off. -/
theorem callNow_until (f : Callable) (args : List Value) (kwargs : Locals) :
    AgreeUntil (Site.Issued q) (fun _ => True) (Site.Quiet q)
      (onActivity (callNow (some q) f args kwargs)) (onActivity (callNow none f args kwargs)) := by
  refine ⟨fun s hs => ?_, fun s t hst => ?_⟩
  · exact callNow_keeps (P := fun a => 0 < (a.registry q).issued)
      (fun _ name i args kwargs ha => issued_putOff name i args kwargs ha) (fun _ _ _ ha => ha)
      f args kwargs hs
  · cases f with
    | deferred name i => exact .inl (issued_register name i args kwargs hst.room)
    | immediate i =>
      rw [onActivity, onActivity, callNow_immediate, callNow_immediate, ← hst.helpers]
      cases hhelper : s.activity.helpers[i]? with
      | none => exact .inr ⟨rfl, hst, fun _ _ => trivial⟩
      | some h =>
        have hstart : (s.activity.start i h).1 = (t.activity.start i h).1 :=
          congrArg (List.count i) hst.starts
        have hstarted : Site.Quiet q { s with activity := (s.activity.start i h).2 }
            { t with activity := (t.activity.start i h).2 } :=
          { hst with starts := congrArg (· ++ [i]) hst.starts }
        dsimp only
        rw [← hstart]
        by_cases htask : h.isTask = true
        · rw [if_pos htask, if_pos htask]
          exact .inr ⟨rfl, hst, fun _ _ => trivial⟩
        · rw [if_neg htask, if_neg htask]
          cases h.body ⟨args, kwargs, (s.activity.start i h).1⟩ with
          | defer j args' kwargs' wrap =>
            exact .inl (issued_register (a := (s.activity.start i h).2) "" j args' kwargs' hst.room)
          | _ => exact .inr ⟨rfl, hstarted, fun _ _ => trivial⟩

theorem loadFor_until (e : Nat) (name : String) :
    AgreeUntil (Site.Issued q) (fun _ => True) (Site.Quiet q) (loadFor e name) (loadFor e name) := by
  refine ⟨fun s hs => ?_, fun s t hst => .inr ?_⟩
  · rw [Site.Issued, activity_loadFor]
    exact hs
  · have hload := loadFor_alike (I := Site.Quiet q) (fun _ _ hst => hst.engines) ?_ e name hst
    · exact ⟨hload.1, hload.2, fun _ _ => trivial⟩
    · intro u v n d d' huv hd hd'
      refine { huv with engines := fun m => ?_ }
      have hu := u.alike_setEngine hd m
      have hv := v.alike_setEngine hd' m
      have hm := huv.engines m
      exact ⟨hu.1.trans (hm.1.trans hv.1.symm), hu.2.trans (hm.2.trans hv.2.symm)⟩

/-- A template comes to the same in a scope and outside of all, unless it puts a call off. -/
theorem run_quiet {s t : Site} (h : s.Quiet q t) (c : Compiled) (locals : Locals) :
    (c.run (some q) locals s).2.Issued q ∨
      ((c.run (some q) locals s).1 = (c.run none locals t).1 ∧
        (c.run (some q) locals s).2.Quiet q (c.run none locals t).2) := by
  have hengine := h.engines c.engine
  have hhost : Host.AlikeUntil (Site.Issued q) (fun _ => True) (Site.Quiet q)
      (hostFor c.engine (s.engine c.engine) (some q)) (hostFor c.engine (t.engine c.engine) none) :=
    ⟨hengine.1.autoescape, hengine.2, fun _ => trivial, callNow_until, loadFor_until c.engine⟩
  exact ((run_until hhost c.template locals).same s t h).imp id fun hsame => ⟨hsame.1, hsame.2.1⟩

end Parting

/-- How a render ends whose page comes to this. -/
def pageResult (path : String) : Except Interrupt String → Except Stop String
  | .ok html => .ok html
  | .error (.fault f) => .error (.failure (.template path f.message (some f)))
  | .error (.cancelled message) => .error (.interrupt (.cancelled message))

/-- A template puts no call off: run in a scope of its own, it issues no placeholder. -/
def Compiled.PutsNothingOff (c : Compiled) (locals : Locals) (s : Site) : Prop :=
  ¬(c.run (some s.activity.registries.length) locals s.opened).2.Issued s.activity.registries.length

theorem Site.quiet_opened {s t : Site} (hengines : ∀ d, (s.engine d).Alike (t.engine d) ∧
      (s.engine d).globals = (t.engine d).globals) (hactivity : t.activity = s.activity) :
    s.opened.Quiet s.activity.registries.length t where
  engines := hengines
  helpers := by
    rw [hactivity]
    rfl
  starts := by
    rw [hactivity]
    rfl
  room := s.room_opened
  pending := by
    rw [s.registry_opened]

/-- A page that puts no call off and has no layout is what running it outside of all scopes gives. -/
theorem printed_of_putsNothingOff {r : Request} {s t : Site} {c : Compiled}
    (h : c.PutsNothingOff (s.optionsAt r.options) s)
    (hquiet : s.opened.Quiet s.activity.registries.length t) :
    s.printed r none c = pageResult r.path (c.run none (s.optionsAt r.options) t).1 := by
  obtain ⟨hsame, hend⟩ := (run_quiet hquiet c (s.optionsAt r.options)).resolve_left h
  rw [← hsame]
  -- The text of the page is the result of the run, as there is no layout.
  have htext : pageText r s.activity.registries.length none c s.opened =
      (pageResult r.path (c.run (some s.activity.registries.length) (s.optionsAt r.options)
          s.opened).1,
        (c.run (some s.activity.registries.length) (s.optionsAt r.options) s.opened).2) := by
    have hoptions : s.opened.optionsAt r.options = s.optionsAt r.options := rfl
    rw [pageText, bind_apply, execute_apply, hoptions]
    generalize c.run (some s.activity.registries.length) (s.optionsAt r.options) s.opened = x
    obtain ⟨(_ | _) | out, u⟩ := x <;> rfl
  rw [Site.printed]
  obtain ⟨e, u, htext', hafter⟩ | ⟨html, u, log, htext', -, hafter⟩ |
    ⟨html, u, f, htext', hpending, -, -⟩ | ⟨html, u, deadline, htext', hpending, -, -⟩ :=
      after_runPage_cases r s.activity.registries.length none c s.opened
  all_goals rw [htext] at htext'
  all_goals obtain ⟨hresult, rfl⟩ := Prod.mk.inj htext'
  · rw [hafter, hresult, runStages_ended]
    rfl
  · rw [hafter, hresult, runStages_ended]
    rfl
  · exact absurd hend.pending hpending
  · exact absurd hend.pending hpending

/-! ### Block helpers -/

/-- What an entry of a mapping binds, if its key is a text. -/
def bindingOf (entry : Value × Value) : Except Fault (String × Value) :=
  match entry.1.text? with
  | some name => .ok (name, entry.2)
  | none => .error (.type (.arguments "keywords must be strings"))

/-- What the block helpers among locals bind. -/
def blockHelpers (locals : Locals) : Except Fault Locals := do
  (← entriesOf (orEmpty (locals.get? "block_helpers"))).mapM bindingOf

/-- The locals of a direct run are the given ones with the block helpers bound over them. -/
theorem directLocals_eq (locals : Locals) :
    directLocals locals = (blockHelpers locals).map locals.update := by
  rw [directLocals, blockHelpers]
  cases entriesOf (orEmpty (locals.get? "block_helpers")) with
  | error f => rfl
  | ok es =>
    change es.foldlM _ locals = (es.mapM bindingOf).map locals.update
    induction es generalizing locals with
    | nil => rfl
    | cons entry es ih =>
      obtain ⟨k, v⟩ := entry
      rw [List.foldlM_cons, List.mapM_cons, bindingOf]
      dsimp only
      cases k.text? with
      | none => rfl
      | some name =>
        show es.foldlM _ (locals.set name v) = _
        rw [ih]
        cases es.mapM bindingOf <;> rfl

/-- A direct run over locals is a run over what is left of them under their block helpers. -/
theorem runDirect_eq (c : Compiled) (locals : Locals) :
    c.runDirect locals =
      (Action.ofExcept (blockHelpers locals) >>= fun helpers => c.run none (locals.update helpers)) := by
  rw [Compiled.runDirect, directLocals_eq]
  cases blockHelpers locals <;> rfl

theorem runDirect_of_falsy {locals : Locals}
    (h : (locals.get? "block_helpers").any Value.truthy = false) (c : Compiled) :
    c.runDirect locals = c.run none locals := by
  have hempty : orEmpty (locals.get? "block_helpers") = .dict [] := by
    cases hvalue : locals.get? "block_helpers" with
    | none => rfl
    | some v =>
      rw [hvalue] at h
      rw [orEmpty, if_neg (Bool.not_eq_true _ ▸ h)]
  have hnone : blockHelpers locals = .ok [] := by
    rw [blockHelpers, hempty]
    rfl
  rw [runDirect_eq, hnone]
  rfl

/-- To compile a text directly is to compile it for the engine, which counts it. -/
theorem compileDirect_str (e : Nat) (source : String) (s : Site) :
    compileDirect e (.str source) s =
      ((Template.compile (s.engine e).autoescape none source).map fun t => .template ⟨e, t⟩,
        s.setEngine e { s.engine e with compiles := (s.engine e).compiles + 1 }) := by
  show ((Except.map _ (Except.map _ _) : Except SyntaxFault Direct), _) = _
  cases Template.compile (s.engine e).autoescape none source <;> rfl

theorem compileDirect_of_compile {e : Nat} {source : String} {s : Site} {c : Compiled}
    (hengine : c.engine = e)
    (h : Template.compile (s.engine e).autoescape none source = .ok c.template) :
    compileDirect e (.str source) s =
      (.ok (.template c), s.setEngine e { s.engine e with compiles := (s.engine e).compiles + 1 }) := by
  subst hengine
  rw [compileDirect_str, h]
  rfl

/-- A direct run leaves all options and all global names as they are. -/
theorem runDirect_keeps (c : Compiled) (locals : Locals) (s : Site) :
    (c.runDirect locals s).2.options = s.options ∧
      ∀ d, ((c.runDirect locals s).2.engine d).globals = (s.engine d).globals := by
  have hkeeps : ∀ l, (c.run none l s).2.options = s.options ∧ s.Akin (c.run none l s).2 := by
    intro l
    refine run_keeps (P := fun t => t.options = s.options ∧ s.Akin t) (fun _ _ _ _ ht => ht) ?_ c l
      ⟨rfl, fun d => ⟨.refl _, rfl⟩⟩
    intro e name t ht
    refine ⟨(options_loadFor e name t).trans ht.1, ?_⟩
    exact akin_loadFor e name ht.2
  rw [runDirect_eq]
  cases blockHelpers locals with
  | error f => exact ⟨rfl, fun _ => rfl⟩
  | ok helpers => exact ⟨(hkeeps _).1, fun d => ((hkeeps _).2 d).2⟩

/-- The function may as well be given the locals with its block helpers bound over them, unless they
bind `block_helpers` itself. -/
theorem runDirect_update {locals helpers : Locals} (h : blockHelpers locals = .ok helpers)
    (hdistinct : (helpers.map (·.1)).Nodup) (hown : helpers.get? "block_helpers" = none)
    (c : Compiled) : c.runDirect (locals.update helpers) = c.runDirect locals := by
  have hsame : blockHelpers (locals.update helpers) = .ok helpers := by
    rw [← h, blockHelpers, blockHelpers, Locals.get?_update_nodup locals hdistinct, hown,
      Option.none_or]
  rw [runDirect_eq, runDirect_eq, hsame, h]
  show c.run none _ = c.run none _
  rw [locals.update_update hdistinct]

/-- Call a function of locals again and again, each time on the site that the call before left. -/
def callEach (f : Locals → Action Site String) :
    List Locals → Site → List (Except Interrupt String) × Site
  | [], s => ([], s)
  | l :: more, s =>
    let (result, s) := f l s
    let (results, s) := callEach f more s
    (result :: results, s)

/-- A page that no layout wraps, that is not in the cache, and that puts no call off is rendered to
the very text that its source gives when it is compiled and run directly over the same options, or
ends with the fault that refuses or interrupts it there, as a failure of the page. A direct run
leaves all options and all global names as they are. Run after run, each with block helpers of its
own, it is the run over the locals that they were bound over, which are as good for a direct run
unless a block helper is called `block_helpers`. -/
theorem render_agrees_with_direct :
    (∀ (r : Request) (s : Site) (source : String),
      LayoutDecision.ofOptions (s.optionsAt r.options) = .ok .without →
      ((s.optionsAt r.options).get? "block_helpers").any Value.truthy = false →
      (s.cacheOf r.engine).get? Space.file.text r.path = none →
      templateText s.files r.path = .ok source →
      (∃ f t, compileDirect r.engine (.str source) s = (.error f, t) ∧
        (render r s).1 =
          .error (.failure (.template r.path f.message (some (.syntaxError f))))) ∨
      ∃ c t, compileDirect r.engine (.str source) s = (.ok (.template c), t) ∧
        (c.PutsNothingOff (s.optionsAt r.options) s →
          (render r s).1 = pageResult r.path (c.runDirect (s.optionsAt r.options) t).1)) ∧
    (∀ (c : Compiled) (locals : Locals) (s : Site),
      (c.runDirect locals s).2.options = s.options ∧
        ∀ d, ((c.runDirect locals s).2.engine d).globals = (s.engine d).globals) ∧
    (∀ (c : Compiled) (calls : List Locals) (s : Site),
      callEach c.runDirect calls s =
        callEach (fun locals => do
          let helpers ← .ofExcept (blockHelpers locals)
          c.run none (locals.update helpers)) calls s) ∧
    (∀ (c : Compiled) (locals helpers : Locals), blockHelpers locals = .ok helpers →
      (helpers.map (·.1)).Nodup → helpers.get? "block_helpers" = none →
        c.runDirect (locals.update helpers) = c.runDirect locals) ∧
    ∀ (locals helpers : Locals) (name : String),
      (locals.update helpers).get? name = (helpers.reverse.lookup name).or (locals.get? name) := by
  refine ⟨?_, runDirect_keeps, ?_, fun c locals helpers h hdistinct hown =>
    runDirect_update h hdistinct hown c, Locals.get?_update⟩
  · intro r s source hlayout hhelpers hcache htext
    rw [compileDirect_str, render_without_layout hlayout hcache, Site.template_eq, htext]
    dsimp only
    cases Template.compile (s.engine r.engine).autoescape none source with
    | error f => exact .inl ⟨f, _, rfl, rfl⟩
    | ok template =>
      refine .inr ⟨⟨r.engine, template⟩, _, rfl, fun hquiet => ?_⟩
      rw [runDirect_of_falsy hhelpers]
      refine printed_of_putsNothingOff hquiet (Site.quiet_opened (fun d => ?_) rfl)
      have hcounted := s.alike_setEngine (e := r.engine)
        ⟨Engine.alike_compiles (s.engine r.engine) ((s.engine r.engine).compiles + 1), rfl⟩ d
      exact ⟨hcounted.1.symm, hcounted.2.symm⟩
  · intro c calls s
    congr 1
    funext locals
    exact runDirect_eq c locals

/-- A helper that is called on the spot. -/
def exclaims : Helper :=
  { name := "loud"
    doc := none
    isTask := false
    pauses := 0
    body := fun _ => .value (.str "!") }

def noticeSource : String := "Hi {{ name }}{{ loud() }}"

/-- A page that prints an option and a helper, for options that turn the layout off. -/
def noticeSite : Site :=
  { files := ⟨[(["v"], .folder), (["v", "p.html"], .file (Text.encodeUtf8 noticeSource.toList))], []⟩
    engines :=
      [{ cache := 0, partialExtensions := [], globals := [("loud", .function (.immediate 0))] }]
    caches := [{}]
    options := [[("layout", .bool false), ("name", .str "Ann")]]
    activity := { ids := fun _ => "c0", helpers := [exclaims] } }

theorem compile_notice :
    Template.compile true none noticeSource = .ok (compiledSource noticeSource).template := by
  have hsome : (Template.compile true none noticeSource).toOption.isSome = true := by
    decide +kernel
  obtain ⟨t, ht⟩ := Option.isSome_iff_exists.mp hsome
  rw [compiledSource, ht]
  exact eq_ok_of_toOption ht

/-- The notice is rendered to what its source gives directly. -/
theorem render_notice :
    templateText noticeSite.files "/v/p.html" = .ok noticeSource ∧
      (compiledSource noticeSource).PutsNothingOff (noticeSite.optionsAt 0) noticeSite ∧
      (render ⟨0, "/v/p.html", 0⟩ noticeSite).1 = .ok "Hi Ann!" := by
  have htext : templateText noticeSite.files "/v/p.html" = .ok noticeSource := by
    simp only [templateText, Files.Tree.readText, Files.Tree.read, Files.Tree.place_eq]
    rfl
  have hquiet : (compiledSource noticeSource).PutsNothingOff (noticeSite.optionsAt 0) noticeSite := by
    rw [Compiled.PutsNothingOff, Site.Issued]
    decide +kernel
  have hcompile := compileDirect_of_compile (s := noticeSite) (e := 0) rfl compile_notice
  refine ⟨htext, hquiet, ?_⟩
  obtain ⟨f, t, hrefused, -⟩ | ⟨c, t, hcompiled, hagree⟩ :=
    render_agrees_with_direct.1 ⟨0, "/v/p.html", 0⟩ noticeSite noticeSource rfl rfl rfl htext
  · cases hcompile.symm.trans hrefused
  · cases hcompile.symm.trans hcompiled
    exact (hagree hquiet).trans (eq_ok_of_toOption (by decide +kernel))

end DeferredViews.View
