import DeferredViews.CommandLine.Program
import DeferredViews.Proofs.Registration

/-!
# Records are never read

Every part of a run adds its records to those there are, and none looks at them. Put earlier records
in front: a render, a registration of partials, every command comes to the same and does the same,
and its own records, the same ones, follow the earlier ones.
-/
namespace DeferredViews

variable {σ ε α β : Type} {before : σ → σ}

/-- Two computations that do the same, the second one on a state that was changed beforehand, a
change that stays and that they do not see. -/
def Unseen (before : σ → σ) (x y : ExceptT ε (StateM σ) α) : Prop :=
  ∀ s, y (before s) = ((x s).1, before (x s).2)

namespace Unseen

theorem pure (a : α) : Unseen (ε := ε) before (Pure.pure a) (Pure.pure a) := fun _ => rfl

theorem throw (e : ε) : Unseen before (MonadExcept.throw e : ExceptT ε (StateM σ) α)
    (MonadExcept.throw e) :=
  fun _ => rfl

theorem bind {x y : ExceptT ε (StateM σ) α} {f g : α → ExceptT ε (StateM σ) β}
    (h : Unseen before x y) (hnext : ∀ a, Unseen before (f a) (g a)) :
    Unseen before (x >>= f) (y >>= g) := by
  intro s
  rw [bind_apply, bind_apply, h s]
  dsimp only
  cases (x s).1 with
  | ok a => exact hnext a (x s).2
  | error e => rfl

theorem get_bind {f g : σ → ExceptT ε (StateM σ) α}
    (h : ∀ s, Unseen before (f s) (g (before s))) :
    Unseen before (MonadState.get >>= f) (MonadState.get >>= g) :=
  fun s => h s s

theorem set (s : σ) :
    Unseen (ε := ε) before (MonadStateOf.set s : ExceptT ε (StateM σ) PUnit)
      (MonadStateOf.set (before s)) :=
  fun _ => rfl

theorem modify {f : σ → σ} (h : ∀ s, f (before s) = before (f s)) :
    Unseen before (MonadState.modifyGet fun s => (⟨⟩, f s) : ExceptT ε (StateM σ) PUnit)
      (MonadState.modifyGet fun s => (⟨⟩, f s)) := by
  intro s
  exact congrArg (Prod.mk (Except.ok PUnit.unit)) (h s)

/-- A loop over a list. -/
theorem forIn {γ : Type} {f : γ → β → ExceptT ε (StateM σ) (ForInStep β)}
    (h : ∀ c b, Unseen before (f c b) (f c b)) (cs : List γ) (b : β) :
    Unseen before (ForIn.forIn cs b f) (ForIn.forIn cs b f) := by
  induction cs generalizing b with
  | nil =>
    rw [List.forIn_nil]
    exact pure b
  | cons c more ih =>
    rw [List.forIn_cons]
    refine (h c b).bind fun step => ?_
    cases step with
    | done b => exact pure b
    | yield b => exact ih b

end Unseen
end DeferredViews

namespace DeferredViews.View

open Deferred Files Template

/-! ## Renders -/

/-- A site with records that were made before. -/
def Site.withRecords (l : List Log.Record) (s : Site) : Site := { s with log := l ++ s.log }

/-- A part of a render that looks at no records. -/
abbrev Unread {α : Type} (l : List Log.Record) (x y : Work α) : Prop :=
  Unseen (Site.withRecords l) x y

namespace Unread

variable {α : Type} {l : List Log.Record}

theorem note (r : Log.Record) : Unread l (View.note r) (View.note r) :=
  .modify fun s => by simp [Site.note, Site.withRecords]

theorem orFault (x : Except Fault α) : Unread l (View.orFault x) (View.orFault x) := by
  cases x with
  | ok a => exact .pure a
  | error f => exact .throw _

theorem readTemplate (path : String) :
    Unread l (View.readTemplate path) (View.readTemplate path) := by
  intro s
  rw [readTemplate_apply, readTemplate_apply]
  rfl

theorem compileFile (e : Nat) (path source : String) :
    Unread l (View.compileFile e path source) (View.compileFile e path source) := by
  intro s
  have hengine : (s.withRecords l).engine e = s.engine e := rfl
  rw [Mirror.compileFile_apply, Mirror.compileFile_apply, hengine]
  cases Template.compile (s.engine e).autoescape none source <;> rfl

/-- No function and no include of a template looks at records. -/
theorem run (c : Compiled) (scope : Option Nat) (locals : Locals) :
    Unseen (Site.withRecords l) (c.run scope locals) (c.run scope locals) := by
  intro s
  have hhost : Host.Alike (fun _ => True) (fun t u : Site => u = t.withRecords l)
      (hostFor c.engine (s.engine c.engine) scope)
      (hostFor c.engine ((s.withRecords l).engine c.engine) scope) := by
    refine ⟨rfl, rfl, fun _ => trivial, ?_, ?_⟩
    · rintro f args kwargs t _ rfl
      exact ⟨rfl, rfl, fun _ _ => trivial⟩
    · rintro name t _ rfl
      have hengine : (t.withRecords l).engine c.engine = t.engine c.engine := rfl
      show (loadFor c.engine name t).1 = (loadFor c.engine name (t.withRecords l)).1 ∧
        (loadFor c.engine name (t.withRecords l)).2 = (loadFor c.engine name t).2.withRecords l ∧ _
      rw [loadFor, loadFor, hengine]
      cases (t.engine c.engine).load name <;> exact ⟨rfl, rfl, fun _ _ => trivial⟩
  obtain ⟨hsame, hsite, -⟩ := run_same hhost c.template locals s _ rfl
  exact Prod.ext hsame.symm hsite

theorem execute (r : Request) (q : Nat) (c : Compiled) (name : String) :
    Unread l (View.execute r q c name) (View.execute r q c name) := by
  intro s
  have hoptions : (s.withRecords l).optionsAt r.options = s.optionsAt r.options := rfl
  rw [execute_apply, execute_apply, hoptions, run c (some q) (s.optionsAt r.options) s]
  generalize c.run (some q) (s.optionsAt r.options) s = x
  obtain ⟨i | out, t⟩ := x
  · cases i <;> rfl
  · rfl

theorem cached? (r : Request) (space : Space) (key : String) :
    Unread l (View.cached? r space key) (View.cached? r space key) := by
  refine .get_bind fun s => ?_
  have hcache : (s.withRecords l).cacheOf r.engine = s.cacheOf r.engine := rfl
  rw [hcache]
  cases (s.cacheOf r.engine).get? space.text key with
  | some c => exact (note _).bind fun _ => .pure _
  | none => exact .pure _

theorem keep (r : Request) (space : Space) (key : String) (c : Compiled) :
    Unread l (View.keep r space key c) (View.keep r space key c) := by
  refine .get_bind fun s => ?_
  refine Unseen.bind (Unseen.set _) fun _ => ?_
  have hkept : ∀ kept : Bool, Unread l
      (if kept then View.note (Log.debug Log.cacheLogger
        ("Cached compiled template: " ++ space.text ++ ":" ++ key)) else Pure.pure ⟨⟩)
      (if kept then View.note (Log.debug Log.cacheLogger
        ("Cached compiled template: " ++ space.text ++ ":" ++ key)) else Pure.pure ⟨⟩) := by
    intro kept
    cases kept with
    | true => exact note _
    | false => exact .pure _
  exact hkept _

theorem complete (r : Request) (q : Nat) (rendered : String) (values : List (String × String)) :
    Unread l (View.complete r q rendered values) (View.complete r q rendered values) := by
  rw [View.complete]
  dsimp only
  split
  · exact .get_bind fun s => .throw _
  · exact (note _).bind fun _ => .pure _

theorem conclude (r : Request) (q : Nat) (rendered : String) (deadline : Option Deadline)
    (settled : Settled) :
    Unread l (View.conclude r q rendered deadline settled)
      (View.conclude r q rendered deadline settled) := by
  have hnotes : Unread l (ForIn.forIn (settled.warnings deadline) PUnit.unit fun record _ => do
      View.note record
      Pure.pure (ForInStep.yield PUnit.unit)) _ :=
    .forIn (fun record _ => (note record).bind fun _ => .pure _) _ _
  refine Unseen.bind hnotes fun _ => ?_
  cases settled.result deadline with
  | ok values => exact complete r q rendered values
  | error stop => exact .throw stop

theorem closePage (r : Request) (q : Nat) (rendered : String) :
    Unread l (View.closePage r q rendered) (View.closePage r q rendered) := by
  refine .get_bind fun s => ?_
  refine Unseen.bind (Unseen.set _) fun _ => ?_
  have hactivity : (s.withRecords l).activity = s.activity := rfl
  rw [hactivity]
  cases (s.activity.registry q).pending.isEmpty with
  | true => exact (complete r q rendered []).bind fun html => .pure _
  | false => exact Unseen.bind ((orFault _).bind fun _ => .pure _) fun _ => .pure _

theorem pageText (r : Request) (q : Nat) (layout : Option Wrapping) (page : Compiled) :
    Unread l (View.pageText r q layout page) (View.pageText r q layout page) := by
  refine (execute r q page r.path).bind fun content => ?_
  cases layout with
  | none => exact .pure content
  | some w =>
    exact Unseen.bind (.modify fun s => rfl) fun _ => execute r q w.compiled w.name

theorem runPage (r : Request) (q : Nat) (layout : Option Wrapping) (page : Compiled) :
    Unread l (View.runPage r q layout page) (View.runPage r q layout page) := by
  rw [runPage_eq]
  exact (pageText r q layout page).bind fun rendered => closePage r q rendered

theorem startPage (r : Request) (q : Nat) (layout : Option Wrapping) :
    Unread l (View.startPage r q layout) (View.startPage r q layout) := by
  refine (cached? r .file r.path).bind fun found => ?_
  cases found with
  | some c => exact runPage r q layout c
  | none => exact .pure _

theorem startLayout (r : Request) (q : Nat) (decision : LayoutDecision) (name : String) :
    Unread l (View.startLayout r q decision name) (View.startLayout r q decision name) := by
  refine (cached? r .layout name).bind fun found => ?_
  cases found with
  | some c => exact startPage r q _
  | none =>
    refine .get_bind fun s => ?_
    refine Unseen.bind (orFault _) fun views => ?_
    refine Unseen.bind (orFault _) fun x => ?_
    refine (note _).bind fun _ => ?_
    cases x.1 with
    | some path => exact .pure _
    | none =>
      dsimp only
      split
      · exact .throw _
      · exact (note _).bind fun _ => startPage r q none

theorem openRender (r : Request) : Unread l (View.openRender r) (View.openRender r) := by
  refine .get_bind fun s => ?_
  refine Unseen.bind (orFault _) fun decision => ?_
  refine .get_bind fun s => ?_
  refine Unseen.bind (Unseen.set _) fun _ => ?_
  cases decision.name? with
  | none => exact startPage r _ none
  | some name => exact startLayout r _ decision name

theorem settle (r : Request) (q : Nat) (rendered : String) (rounds : Nat) (w : Settling) :
    Unread l (View.settle r q rendered rounds w) (View.settle r q rendered rounds w) := by
  refine .get_bind fun s => ?_
  refine Unseen.bind (orFault _) fun deadline => ?_
  have hactivity : (s.withRecords l).activity = s.activity := rfl
  rw [hactivity]
  generalize w.advance (some q) deadline rounds s.activity = x
  obtain ⟨v, a⟩ := x
  refine Unseen.bind (Unseen.set _) fun _ => ?_
  cases v.result? with
  | some settled => exact (conclude r q rendered deadline settled).bind fun html => .pure _
  | none => exact .pure _

theorem work (r : Request) (stage : Stage) : Unread l (stage.work r) (stage.work r) := by
  cases stage with
  | opening => exact openRender r
  | readingLayout q name path =>
    rw [work_readingLayout]
    refine Unseen.bind ?_ fun c => (keep r .layout name c).bind fun _ => startPage r q _
    exact (readTemplate path.text).bind fun source => compileFile r.engine path.text source
  | readingPage q layout =>
    rw [work_readingPage]
    refine Unseen.bind ?_ fun c => (keep r .file r.path c).bind fun _ => runPage r q layout c
    exact (readTemplate r.path).bind fun source => compileFile r.engine r.path source
  | settling q rendered rounds w => exact settle r q rendered rounds w
  | ended result => exact .pure _

end Unread

/-- A render takes the same stages, whatever records were made before. -/
theorem step_withRecords (l : List Log.Record) (r : Request) (stage : Stage) (s : Site) :
    stage.step r (s.withRecords l) =
      ((stage.step r s).1, (stage.step r s).2.withRecords l) := by
  rw [Stage.step_eq, Stage.step_eq, Unread.work r stage s]
  generalize stage.work r s = x
  obtain ⟨_ | next, t⟩ := x <;> rfl

theorem runStages_withRecords (l : List Log.Record) (r : Request) (n : Nat) (stage : Stage)
    (s : Site) :
    runStages r n stage (s.withRecords l) =
      ((runStages r n stage s).1, (runStages r n stage s).2.withRecords l) := by
  induction n generalizing stage s with
  | zero => rfl
  | succ n ih =>
    rw [runStages, runStages]
    cases stage.result? with
    | some x => rfl
    | none =>
      dsimp only
      rw [step_withRecords]
      exact ih _ _

theorem render_withRecords (l : List Log.Record) (r : Request) (s : Site) :
    render r (s.withRecords l) = ((render r s).1, (render r s).2.withRecords l) := by
  have hpatience : patience (s.withRecords l) = patience s := rfl
  rw [render, render, hpatience, runStages_withRecords]

theorem Unread.registerPartials {l : List Log.Record} (e : Nat) (directory : Path) :
    Unread l (View.registerPartials e directory) (View.registerPartials e directory) := by
  refine .get_bind fun s => ?_
  dsimp only
  have hfiles : (s.withRecords l).files = s.files := rfl
  have hengine : (s.withRecords l).engine e = s.engine e := rfl
  rw [hfiles, hengine]
  split
  · exact .throw _
  cases listing s.files directory with
  | error err => exact .throw _
  | ok paths =>
    refine Unseen.bind (.forIn (fun p _ => ?_) paths _) fun _ => ?_
    · cases isTemplateFile s.files (s.engine e).partialExtensions p with
      | true => exact .pure _
      | false => exact (note _).bind fun _ => .pure _
    · refine Unseen.bind (.modify fun t => rfl) fun _ => ?_
      split
      · exact (note _).bind fun _ => .pure _
      · exact .throw _

end DeferredViews.View

namespace DeferredViews.CommandLine

open Files View Run

/-! ## Commands -/

/-- A console with records that were made before. -/
def Console.withRecords (l : List Log.Record) (c : Console) : Console :=
  { c with site := c.site.withRecords l }

/-- A part of a command that looks at no records. -/
abbrev Unread {α : Type} (l : List Log.Record) (x y : Run α) : Prop :=
  Unseen (Console.withRecords l) x y

namespace Unread

variable {α : Type} {l : List Log.Record}

theorem note (r : Log.Record) : Unread l (Run.note r) (Run.note r) :=
  .modify fun c => by simp [Console.withRecords, Site.note, Site.withRecords]

theorem fail (m : String) : Unread l (Run.fail (α := α) m) (Run.fail m) :=
  (note _).bind fun _ => .throw _

theorem print (s : String) : Unread l (Run.print s) (Run.print s) := .modify fun _ => rfl

theorem orEscape (x : Except Fault α) : Unread l (Run.orEscape x) (Run.orEscape x) := by
  cases x with
  | ok a => exact .pure a
  | error f => exact .throw _

theorem orEscapeFile (x : Except FileError α) :
    Unread l (Run.orEscapeFile x) (Run.orEscapeFile x) := by
  cases x with
  | ok a => exact .pure a
  | error f => exact .throw _

/-- Work on the site that looks at no records. -/
theorem work {x : Work α} (h : View.Unread l x x) : Unread l (Run.work x) (Run.work x) := by
  refine .get_bind fun c => ?_
  have hx : x.run (c.withRecords l).site = ((x.run c.site).1, (x.run c.site).2.withRecords l) :=
    h c.site
  rw [hx]
  generalize x.run c.site = result
  obtain ⟨result, s⟩ := result
  refine Unseen.bind (Unseen.set _) fun _ => ?_
  cases result with
  | ok a => exact .pure a
  | error stop =>
    cases stop with
    | failure f => exact fail _
    | interrupt i => cases i <;> exact .throw _

theorem loadLocals (p : Option Path) :
    Unread l (CommandLine.loadLocals p) (CommandLine.loadLocals p) := by
  cases p with
  | none => exact .pure _
  | some p =>
    refine .get_bind fun c => ?_
    have hfiles : (c.withRecords l).site.files = c.site.files := rfl
    rw [hfiles]
    cases localsFrom c.site.files p with
    | ok es => exact .pure es
    | error f =>
      dsimp only
      split
      · exact fail _
      · exact .throw _

theorem writePage (html : String) (p : Path) :
    Unread l (CommandLine.writePage html p) (CommandLine.writePage html p) := by
  refine .get_bind fun c => ?_
  refine Unseen.bind (orEscapeFile _) fun files => ?_
  refine Unseen.bind (.modify fun _ => rfl) fun _ => ?_
  refine Unseen.bind (orEscapeFile _) fun files => ?_
  exact Unseen.bind (.modify fun _ => rfl) fun _ => note _

theorem renderPage (engine : Nat) (template : Path) (options : Locals) :
    View.Unread l (CommandLine.renderPage engine template options)
      (CommandLine.renderPage engine template options) := by
  refine Unseen.bind (fun _ => rfl) fun place => .get_bind fun s => .get_bind fun t => ?_
  have hfiles : (s.withRecords l).files = s.files := rfl
  rw [hfiles, render_withRecords]
  generalize View.render _ t = x
  obtain ⟨result, u⟩ := x
  refine Unseen.bind (Unseen.set _) fun _ => ?_
  cases result with
  | ok html => exact .pure html
  | error stop => exact .throw stop

theorem runRender (settings : Config.Settings) (engine : Nat) (r : Rendering) :
    Unread l (CommandLine.runRender settings engine r)
      (CommandLine.runRender settings engine r) := by
  refine (loadLocals r.locals).bind fun locals => ?_
  refine (orEscape _).bind fun options => ?_
  refine (orEscape _).bind fun directory => ?_
  refine Unseen.bind (work ?_) fun html => ?_
  · cases directory with
    | none => exact renderPage engine r.template options
    | some p =>
      refine Unseen.bind ((View.Unread.registerPartials engine p).bind fun _ => .pure _) fun _ => ?_
      exact renderPage engine r.template options
  · cases r.output with
    | none => exact print html
    | some p => exact writePage html p

theorem checkForm {Tree Code : Type} (language : Template.Language Tree Code) (template : Path) :
    Unread l (CommandLine.checkForm language template)
      (CommandLine.checkForm language template) := by
  refine (note _).bind fun _ => .get_bind fun c => ?_
  have hfiles : (c.withRecords l).site.files = c.site.files := rfl
  rw [hfiles]
  cases c.site.files.readText template with
  | error e => exact .throw _
  | ok source =>
    dsimp only
    cases language.read false source with
    | ok tree => exact print _
    | error f =>
      cases f with
      | syntaxError e => exact (note _).bind fun _ => (print _).bind fun _ => .throw _
      | _ => exact .throw _

theorem runPartials (engine : Nat) (directory : Path) :
    Unread l (CommandLine.runPartials engine directory)
      (CommandLine.runPartials engine directory) := by
  refine (work (View.Unread.registerPartials engine directory)).bind fun names => ?_
  refine Unseen.bind (.forIn (fun name _ => ?_) names _) fun _ => .pure _
  exact (print _).bind fun _ => .pure _

theorem runInit (force : Bool) :
    Unread l (CommandLine.runInit force) (CommandLine.runInit force) := by
  refine .get_bind fun c => ?_
  have hfiles : (c.withRecords l).site.files = c.site.files := rfl
  rw [hfiles]
  dsimp only
  split
  · exact fail _
  · refine Unseen.bind (orEscapeFile _) fun files => ?_
    exact Unseen.bind (.modify fun _ => rfl) fun _ => print _

theorem command (settings : Config.Settings) (engine : Nat) (command : Command) :
    Unread l (command.run settings engine) (command.run settings engine) := by
  cases command with
  | help => exact print _
  | render r => exact runRender settings engine r
  | validate template => exact checkForm _ template
  | partials directory => exact runPartials engine directory
  | init force => exact runInit force

theorem loadConfiguration (env : List (String × String)) (flags : Flags) :
    Unread l (CommandLine.loadConfiguration env flags)
      (CommandLine.loadConfiguration env flags) := by
  refine .get_bind fun c => ?_
  have hfiles : (c.withRecords l).site.files = c.site.files := rfl
  rw [hfiles]
  cases Config.load c.site.files env flags.config true with
  | ok loaded =>
    dsimp only
    cases loaded.path with
    | some p => exact (note _).bind fun _ => .pure _
    | none => exact .pure _
  | error f =>
    cases f with
    | noConfiguration p => exact fail _
    | _ =>
      dsimp only
      split
      · exact fail _
      · exact .throw _

theorem runCommand (env : List (String × String)) (flags : Flags) (name : CommandName)
    (arguments : List String) :
    Unread l (CommandLine.runCommand env flags name arguments)
      (CommandLine.runCommand env flags name arguments) := by
  refine (loadConfiguration env flags).bind fun settings => .get_bind fun c => ?_
  have hfiles : (c.withRecords l).site.files = c.site.files := rfl
  rw [hfiles]
  cases Command.ofArguments c.site.files name arguments with
  | error e =>
    cases e
    exact .throw _
  | ok command =>
    refine Unseen.bind (fun _ => rfl) fun engine => ?_
    exact Unread.command settings engine command

end Unread

/-- Whatever records there were before, a command comes to the same outcome, and its own records
follow the earlier ones. -/
theorem outcomeOf_withRecords (l : List Log.Record) (flags : Flags)
    (env : List (String × String)) (name : CommandName) (arguments : List String) (c : Console) :
    outcomeOf flags (runCommand env flags name arguments) (c.withRecords l) =
      { outcomeOf flags (runCommand env flags name arguments) c with
        log := l ++ (outcomeOf flags (runCommand env flags name arguments) c).log } := by
  have hrun : (runCommand env flags name arguments).run (c.withRecords l) =
      (((runCommand env flags name arguments).run c).1,
        ((runCommand env flags name arguments).run c).2.withRecords l) :=
    Unread.runCommand env flags name arguments c
  rw [outcomeOf, outcomeOf, hrun]
  generalize (runCommand env flags name arguments).run c = x
  obtain ⟨result, d⟩ := x
  cases result with
  | ok a => rfl
  | error halt => cases halt <;> rfl

end DeferredViews.CommandLine
