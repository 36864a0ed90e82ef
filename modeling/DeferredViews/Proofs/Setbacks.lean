import DeferredViews.Proofs.Inert
import DeferredViews.Proofs.Precedence
import DeferredViews.Proofs.Registration

/-!
# How far a render command comes

A render command loads the configuration, reads the locals, registers partials and renders its page.
Either all of this goes well and the page is put out, or the first thing that does not ends the run
with a status that is no success: an error that is on record then, or a fault that no command deals
with. Up to there nothing is printed and no file is touched.
-/
namespace DeferredViews.View

open Files

/-- Neither a render nor what it runs touches a file. -/
theorem files_render (r : Request) (s : Site) : (render r s).2.files = s.files := by
  have hinert : Inert r (fun _ _ => True) fun t => t.files = s.files :=
    { aside := fun _ _ _ h => h
      engine := fun _ _ _ _ h => h
      body := fun _ _ h => h
      page := fun _ _ _ h => h
      layout := fun _ _ _ _ _ _ h => h }
  have hbegun : Underway r (fun _ _ => True) (fun t => t.files = s.files) (.opening, s) :=
    ⟨rfl, fun _ _ _ _ _ => trivial, nofun⟩
  exact (hbegun.runStages hinert (patience s)).holds

/-- The partials of a directory, if there is one, become partials of an engine. -/
def register (e : Nat) (directory : Option Path) : Work Unit :=
  match directory with
  | some p => discard (registerPartials e p)
  | none => pure ()

theorem register_site (e : Nat) (directory : Option Path) (s : Site) :
    ∃ sources log, (register e directory s).2 =
      { s.setEngine e ((s.engine e).setPartials sources) with log } := by
  cases directory with
  | none => exact ⟨[], s.log, (s.setEngine_engine e).symm⟩
  | some p =>
    obtain ⟨log, hsite⟩ := registerPartials_site e p s
    refine ⟨_, log, Eq.trans ?_ hsite⟩
    show (((registerPartials e p) >>= fun _ => pure ()) s).2 = _
    rw [bind_apply]
    cases (registerPartials e p s).1 <;> rfl

end DeferredViews.View

namespace DeferredViews.CommandLine

open Files View Run

/-! ## Setbacks -/

/-- What keeps a render command from its page. -/
inductive Setback where
  | reported (message : String)
  | escaped (f : Fault)
  | cancelled
  deriving DecidableEq, Repr

namespace Setback

def ofConfiguration : Fault → Setback
  | .noConfiguration p => .reported (Fault.noConfiguration p).message
  | f => if isDataFault f then .reported ("Failed to load config: " ++ f.message) else .escaped f

def ofLocals (f : Fault) : Setback :=
  if isDataFault f then .reported ("Invalid locals file: " ++ f.message) else .escaped f

def ofStop : Stop → Setback
  | .failure f => .reported f.message
  | .interrupt (.fault f) => .escaped f
  | .interrupt (.cancelled _) => .cancelled

def halt : Setback → Halt
  | reported _ => .exit failureStatus
  | escaped f => .fault f
  | cancelled => .exit failureStatus

/-- What a setback leaves on record. -/
def records : Setback → List Log.Record
  | reported message => [Log.error Log.rootLogger message]
  | _ => []

/-- The fault that a setback lets through. -/
def fault? : Setback → Option Fault
  | escaped f => some f
  | _ => none

/-- A run that met with a setback. -/
def outcome (x : Setback) (flags : Flags) (log : List Log.Record) (files : Tree) : Outcome :=
  { status := failureStatus, flags, log := log ++ x.records, escaped := x.fault?, files }

end Setback

/-- A console on which a setback was met. -/
def Console.met (c : Console) (x : Setback) : Console :=
  { c with site := { c.site with log := c.site.log ++ x.records } }

@[simp] theorem Console.met_escaped (c : Console) (f : Fault) : c.met (.escaped f) = c := by
  simp [met, Setback.records]

@[simp] theorem Console.met_cancelled (c : Console) : c.met .cancelled = c := by
  simp [met, Setback.records]

theorem outcomeOf_met {flags : Flags} {x : Setback} {y : Run Unit} {c d : Console}
    (h : y c = (.error x.halt, d.met x)) (hout : d.out = "") :
    outcomeOf flags y c = x.outcome flags d.site.log d.site.files := by
  have hrun : y.run c = (.error x.halt, d.met x) := h
  have hmet : (d.met x).out = "" := hout
  rw [outcomeOf, hrun]
  dsimp only
  rw [hmet]
  cases x <;> rfl

/-- Where no configuration file is found, the settings are the default ones. -/
theorem load_without_file {files : Tree} (env : List (String × String))
    (h : ∀ p ∈ Config.candidates ⟨.absolute, (Path.absolute ⟨.absolute, files.here⟩
      ⟨.relative, []⟩).names⟩, files.fileExists p = false) :
    Config.load files env none true = .ok {} := by
  have hnone : Config.locate files ⟨.relative, []⟩ = none := by
    rw [Config.locate, List.find?_eq_none]
    intro p hp
    rw [h p hp]
    decide
  rw [Config.load, if_pos rfl, hnone]

/-- What loading a configuration leaves on record: the file that it came from. -/
def loadRecords (loaded : Config.Loaded) : List Log.Record :=
  match loaded.path with
  | some p => [Log.debug Log.rootLogger ("Loaded config from: " ++ p.text)]
  | none => []

/-! ## The stages one by one -/

section Stages

variable {c : Console} {f : Fault}

/-- A fault of given data is reported, any other escapes. -/
theorem reportOrThrow_apply {α : Type} (m : String) (f : Fault) (c : Console) :
    (if isDataFault f = true then (fail m : Run α) else throw (.fault f)) c =
      let x : Setback := if isDataFault f then .reported m else .escaped f
      (.error x.halt, c.met x) := by
  cases isDataFault f with
  | true => rfl
  | false => exact congrArg (Prod.mk _) (c.met_escaped f).symm

theorem loadConfiguration_met {env : List (String × String)} {flags : Flags}
    (h : Config.load c.site.files env flags.config true = .error f) :
    loadConfiguration env flags c =
      (.error (Setback.ofConfiguration f).halt, c.met (.ofConfiguration f)) := by
  rw [loadConfiguration, bind_apply, get_apply]
  dsimp only
  rw [h]
  cases f with
  | noConfiguration p => rfl
  | _ => exact reportOrThrow_apply _ _ c

theorem loadConfiguration_loaded {env : List (String × String)} {flags : Flags}
    {loaded : Config.Loaded} (h : Config.load c.site.files env flags.config true = .ok loaded) :
    loadConfiguration env flags c =
      (.ok loaded.settings,
        { c with site := { c.site with log := c.site.log ++ loadRecords loaded } }) := by
  rw [loadConfiguration, bind_apply, get_apply]
  dsimp only
  rw [h, loadRecords]
  dsimp only
  cases loaded.path with
  | some p => rfl
  | none =>
    rw [List.append_nil]
    rfl

theorem loadLocals_met {p : Option Path} (h : localsIn c.site.files p = .error f) :
    loadLocals p c = (.error (Setback.ofLocals f).halt, c.met (.ofLocals f)) := by
  cases p with
  | none => cases h
  | some p =>
    have hfrom : localsFrom c.site.files p = .error f := h
    rw [loadLocals, bind_apply, get_apply]
    dsimp only
    rw [hfrom]
    exact reportOrThrow_apply _ f c

theorem loadLocals_read {p : Option Path} {es : List (Value × Value)}
    (h : localsIn c.site.files p = .ok es) : loadLocals p c = (.ok es, c) := by
  cases p with
  | none =>
    obtain rfl : [] = es := Except.ok.inj h
    rfl
  | some p =>
    have hfrom : localsFrom c.site.files p = .ok es := h
    rw [loadLocals, bind_apply, get_apply]
    dsimp only
    rw [hfrom]
    rfl

theorem orEscape_apply {α : Type} (x : Except Fault α) (c : Console) :
    orEscape x c = (x.mapError .fault, c) := by
  cases x <;> rfl

theorem work_apply {α : Type} (x : Work α) (c : Console) :
    Run.work x c =
      match (x c.site).1 with
      | .ok a => (.ok a, { c with site := (x c.site).2 })
      | .error stop =>
        (.error (Setback.ofStop stop).halt,
          ({ c with site := (x c.site).2 } : Console).met (.ofStop stop)) := by
  have hrun : x.run c.site = x c.site := rfl
  rw [Run.work, bind_apply, get_apply]
  dsimp only
  rw [hrun]
  generalize x c.site = y
  obtain ⟨result, s⟩ := y
  dsimp only
  rw [bind_apply, set_apply]
  cases result with
  | ok a => rfl
  | error stop =>
    cases stop with
    | failure g => rfl
    | interrupt i =>
      cases i with
      | fault g => exact congrArg (Prod.mk _) (Console.met_escaped _ g).symm
      | cancelled m => exact congrArg (Prod.mk _) (Console.met_cancelled _).symm

end Stages

/-! ## Up to the page -/

/-- Everything that a render command does before it puts its page out, once the configuration is
loaded. -/
def makePage (settings : Config.Settings) (engine : Nat) (r : Rendering) : Run String := do
  let locals ← loadLocals r.locals
  let options ← orEscape (do renderOptions settings (← namedLocals locals) r)
  let directory ← orEscape (partialsDirectory settings r)
  work do
    register engine directory
    renderPage engine r.template options

/-- Put a page out: print it, or write it to a file. -/
def deliver (output : Option Path) (html : String) : Run Unit :=
  match output with
  | none => print html
  | some p => writePage html p

theorem runRender_eq_deliver (settings : Config.Settings) (engine : Nat) (r : Rendering) :
    runRender settings engine r = makePage settings engine r >>= deliver r.output := by
  rw [runRender, makePage, bind_assoc]
  refine bind_congr fun locals => ?_
  rw [bind_assoc]
  refine bind_congr fun options => ?_
  rw [bind_assoc]
  refine bind_congr fun directory => ?_
  cases directory with
  | none =>
    have hnone : (do register engine none; renderPage engine r.template options : Work String) =
        renderPage engine r.template options := pure_bind _ _
    rw [hnone]
    rfl
  | some p => rfl

/-- The console on which a run of the program starts. -/
def Console.start (files : Tree) : Console :=
  { site := { files, activity := { ids := fun n => toString n } } }

/-- The site on which a command works: one engine with the settings that were loaded. -/
def siteOf (files : Tree) (loaded : Config.Loaded) : Site :=
  let s : Site := { (Console.start files).site with log := loadRecords loaded }
  (s.addEngine loaded.settings.engine).2

section Page

variable (files : Tree) (env : List (String × String)) (flags : Flags) (r : Rendering)

/-- A render command that is ready for its render, with some options on a site: the configuration
loads, the locals can be read and taken for options, and the partials are registered. -/
inductive Ready : Locals → Site → Prop
  | intro {loaded : Config.Loaded} {es : List (Value × Value)} {options : Locals}
    {directory : Option Path} {s : Site}
    (hload : Config.load files env flags.config true = .ok loaded)
    (hlocals : localsIn files r.locals = .ok es)
    (hoptions : (namedLocals es >>= fun locals => renderOptions loaded.settings locals r) =
      .ok options)
    (hdirectory : partialsDirectory loaded.settings r = .ok directory)
    (hregister : register 0 directory (siteOf files loaded) = (.ok (), s)) : Ready options s

/-- A render command that comes to a page. -/
def MakesPage (html : String) : Prop :=
  ∃ options s, Ready files env flags r options s ∧
    (View.render (r.start 0 options s).1 (r.start 0 options s).2).1 = .ok html

/-- A render command that comes to no page, and what keeps it from one. -/
inductive Meets : Setback → Prop
  | configuration {f : Fault} (h : Config.load files env flags.config true = .error f) :
    Meets (.ofConfiguration f)
  | locals {loaded : Config.Loaded} {f : Fault}
    (hload : Config.load files env flags.config true = .ok loaded)
    (h : localsIn files r.locals = .error f) : Meets (.ofLocals f)
  | options {loaded : Config.Loaded} {es : List (Value × Value)} {f : Fault}
    (hload : Config.load files env flags.config true = .ok loaded)
    (hlocals : localsIn files r.locals = .ok es)
    (h : (namedLocals es >>= fun locals => renderOptions loaded.settings locals r) = .error f) :
    Meets (.escaped f)
  | directory {loaded : Config.Loaded} {es : List (Value × Value)} {options : Locals} {f : Fault}
    (hload : Config.load files env flags.config true = .ok loaded)
    (hlocals : localsIn files r.locals = .ok es)
    (hoptions : (namedLocals es >>= fun locals => renderOptions loaded.settings locals r) =
      .ok options)
    (h : partialsDirectory loaded.settings r = .error f) : Meets (.escaped f)
  | partials {loaded : Config.Loaded} {es : List (Value × Value)} {options : Locals}
    {directory : Option Path} {stop : Stop}
    (hload : Config.load files env flags.config true = .ok loaded)
    (hlocals : localsIn files r.locals = .ok es)
    (hoptions : (namedLocals es >>= fun locals => renderOptions loaded.settings locals r) =
      .ok options)
    (hdirectory : partialsDirectory loaded.settings r = .ok directory)
    (h : (register 0 directory (siteOf files loaded)).1 = .error stop) : Meets (.ofStop stop)
  | page {options : Locals} {s : Site} {stop : Stop} (hready : Ready files env flags r options s)
    (h : (View.render (r.start 0 options s).1 (r.start 0 options s).2).1 = .error stop) :
    Meets (.ofStop stop)

variable {files env flags r}

/-- A command comes to a page, or something keeps it from one. -/
theorem makesPage_or_meets (files : Tree) (env : List (String × String)) (flags : Flags)
    (r : Rendering) :
    (∃ html, MakesPage files env flags r html) ∨ ∃ x, Meets files env flags r x := by
  cases hload : Config.load files env flags.config true with
  | error f => exact .inr ⟨_, .configuration hload⟩
  | ok loaded =>
    cases hlocals : localsIn files r.locals with
    | error f => exact .inr ⟨_, .locals hload hlocals⟩
    | ok es =>
      cases hoptions : namedLocals es >>= fun locals => renderOptions loaded.settings locals r with
      | error f => exact .inr ⟨_, .options hload hlocals hoptions⟩
      | ok options =>
        cases hdirectory : partialsDirectory loaded.settings r with
        | error f => exact .inr ⟨_, .directory hload hlocals hoptions hdirectory⟩
        | ok directory =>
          cases hregister : register 0 directory (siteOf files loaded) with
          | mk result s =>
            cases result with
            | error stop =>
              refine .inr ⟨.ofStop stop, .partials hload hlocals hoptions hdirectory ?_⟩
              rw [hregister]
            | ok u =>
              have hready : Ready files env flags r options s :=
                .intro hload hlocals hoptions hdirectory hregister
              cases hpage : (View.render (r.start 0 options s).1 (r.start 0 options s).2).1 with
              | error stop => exact .inr ⟨_, .page hready hpage⟩
              | ok html => exact .inl ⟨html, options, s, hready, hpage⟩

end Page

/-! ## The whole run -/

section Run

variable {files : Tree} {env : List (String × String)} {arguments more : List String}
  {flags : Flags} {name : CommandName} {r : Rendering}

theorem makePage_apply {settings : Config.Settings} {engine : Nat} {c : Console}
    {es : List (Value × Value)} {options : Locals} {directory : Option Path}
    (hlocals : localsIn c.site.files r.locals = .ok es)
    (hoptions : (namedLocals es >>= fun locals => renderOptions settings locals r) = .ok options)
    (hdirectory : partialsDirectory settings r = .ok directory) :
    makePage settings engine r c =
      Run.work (do register engine directory; renderPage engine r.template options) c := by
  rw [makePage, bind_apply, loadLocals_read hlocals]
  dsimp only
  rw [bind_apply, orEscape_apply, hoptions]
  dsimp only [Except.mapError]
  rw [bind_apply, orEscape_apply, hdirectory]
  rfl

/-- The command works on the console that loading leaves. -/
theorem runCommand_loaded {loaded : Config.Loaded}
    (hload : Config.load files env flags.config true = .ok loaded) :
    runCommand env flags name more (.start files) =
      match Command.ofArguments files name more with
      | .error .usage =>
        (.error (.exit usageStatus),
          { site := { (Console.start files).site with log := loadRecords loaded } })
      | .ok command => command.run loaded.settings 0 { site := siteOf files loaded } := by
  have hloaded := loadConfiguration_loaded (c := .start files) hload
  rw [runCommand, bind_apply, hloaded]
  dsimp only
  rw [bind_apply, get_apply]
  have hfiles : (Console.start files).site.files = files := rfl
  dsimp only
  rw [hfiles]
  cases Command.ofArguments files name more with
  | error e => rfl
  | ok command => rfl

theorem run_eq_outcomeOf
    (hinvocation : Invocation.ofArguments files arguments = .ok (.command flags name more)) :
    run files env arguments =
      outcomeOf flags (runCommand env flags name more) (.start files) := by
  rw [run, hinvocation]
  rfl

/-- A configuration that does not load ends the run, whatever the command is asked for. -/
theorem run_of_unloaded {f : Fault}
    (hinvocation : Invocation.ofArguments files arguments = .ok (.command flags name more))
    (h : Config.load files env flags.config true = .error f) :
    ∃ log, run files env arguments = (Setback.ofConfiguration f).outcome flags log files := by
  have hmet := loadConfiguration_met (c := .start files) h
  have hrun : runCommand env flags name more (.start files) =
      (.error (Setback.ofConfiguration f).halt, (Console.start files).met (.ofConfiguration f)) := by
    rw [runCommand, bind_apply, hmet]
  exact ⟨_, (run_eq_outcomeOf hinvocation).trans (outcomeOf_met hrun rfl)⟩

/-- The run of a render command that is understood and whose configuration loads. -/
theorem run_eq_deliver {loaded : Config.Loaded}
    (hinvocation : Invocation.ofArguments files arguments = .ok (.command flags .render more))
    (hcommand : Command.ofArguments files .render more = .ok (.render r))
    (hload : Config.load files env flags.config true = .ok loaded) :
    run files env arguments =
      outcomeOf flags (makePage loaded.settings 0 r >>= deliver r.output)
        { site := siteOf files loaded } := by
  rw [run_eq_outcomeOf hinvocation, ← runRender_eq_deliver]
  refine outcomeOf_congr flags ?_
  rw [runCommand_loaded hload, hcommand]
  rfl

/-- A command renders on a site like the one that loading left it, but for its partials. -/
theorem Ready.site {options : Locals} {s : Site} (h : Ready files env flags r options s) :
    ∃ loaded sources log, Config.load files env flags.config true = .ok loaded ∧
      s = { (siteOf files loaded).setEngine 0
        (((siteOf files loaded).engine 0).setPartials sources) with log } := by
  cases h with
  | @intro loaded es options directory s hload hlocals hoptions hdirectory hregister =>
    obtain ⟨sources, log, hsite⟩ := register_site 0 directory (siteOf files loaded)
    rw [hregister] at hsite
    exact ⟨loaded, sources, log, hload, hsite⟩

theorem Ready.keepsFiles {options : Locals} {s : Site} (h : Ready files env flags r options s) :
    s.files = files := by
  obtain ⟨loaded, sources, log, -, rfl⟩ := h.site
  rfl

/-- What stops the making of the page stops the run. -/
theorem run_of_stopped {loaded : Config.Loaded} {d : Console} {x : Setback}
    (hinvocation : Invocation.ofArguments files arguments = .ok (.command flags .render more))
    (hcommand : Command.ofArguments files .render more = .ok (.render r))
    (hload : Config.load files env flags.config true = .ok loaded)
    (hmake : makePage loaded.settings 0 r { site := siteOf files loaded } =
      (.error x.halt, d.met x)) (hout : d.out = "") :
    run files env arguments = x.outcome flags d.site.log d.site.files := by
  have hrun : (makePage loaded.settings 0 r >>= deliver r.output)
      { site := siteOf files loaded } = (.error x.halt, d.met x) := by
    rw [bind_apply, hmake]
  rw [run_eq_deliver hinvocation hcommand hload, outcomeOf_met hrun hout]

/-- Locals that cannot be taken for options stop a command that has printed nothing yet. -/
theorem makePage_of_options {loaded : Config.Loaded} {es : List (Value × Value)} {f : Fault}
    (hlocals : localsIn files r.locals = .ok es)
    (h : (namedLocals es >>= fun locals => renderOptions loaded.settings locals r) = .error f) :
    makePage loaded.settings 0 r { site := siteOf files loaded } =
      (.error (Setback.escaped f).halt,
        ({ site := siteOf files loaded } : Console).met (.escaped f)) := by
  rw [makePage, bind_apply, loadLocals_read hlocals]
  dsimp only
  rw [bind_apply, orEscape_apply, h]
  exact congrArg (Prod.mk _) (Console.met_escaped _ f).symm

/-- Whatever keeps a command from its page, the run ends there: nothing was printed, and no file
was touched. -/
theorem run_of_meets {x : Setback}
    (hinvocation : Invocation.ofArguments files arguments = .ok (.command flags .render more))
    (hcommand : Command.ofArguments files .render more = .ok (.render r))
    (h : Meets files env flags r x) :
    ∃ log, run files env arguments = x.outcome flags log files := by
  cases h with
  | configuration h => exact run_of_unloaded hinvocation h
  | @locals loaded f hload h =>
    refine ⟨_, run_of_stopped hinvocation hcommand hload
      (d := { site := siteOf files loaded }) ?_ rfl⟩
    rw [makePage, bind_apply, loadLocals_met h]
  | options hload hlocals h =>
    exact ⟨_, run_of_stopped hinvocation hcommand hload (makePage_of_options hlocals h) rfl⟩
  | @directory loaded es options f hload hlocals hoptions h =>
    refine ⟨_, run_of_stopped hinvocation hcommand hload
      (d := { site := siteOf files loaded }) ?_ rfl⟩
    rw [makePage, bind_apply, loadLocals_read hlocals]
    dsimp only
    rw [bind_apply, orEscape_apply, hoptions]
    dsimp only [Except.mapError]
    rw [bind_apply, orEscape_apply, h]
    exact congrArg (Prod.mk _) (Console.met_escaped _ f).symm
  | @partials loaded es options directory stop hload hlocals hoptions hdirectory h =>
    obtain ⟨sources, log, hsite⟩ := register_site 0 directory (siteOf files loaded)
    have hfiles : (register 0 directory (siteOf files loaded)).2.files = files := by
      rw [hsite]
      rfl
    refine ⟨_, (run_of_stopped hinvocation hcommand hload
      (d := { site := (register 0 directory (siteOf files loaded)).2 }) ?_ rfl).trans
      (congrArg _ hfiles)⟩
    rw [makePage_apply hlocals hoptions hdirectory, work_apply, bind_apply]
    dsimp only
    rw [h]
  | @page options s stop hready h =>
    have hfiles := (files_render (r.start 0 options s).1 (r.start 0 options s).2).trans hready.keepsFiles
    obtain ⟨hload, hlocals, hoptions, hdirectory, hregister⟩ := hready
    refine ⟨_, (run_of_stopped hinvocation hcommand hload
      (d := { site := (View.render (r.start 0 options s).1 (r.start 0 options s).2).2 })
      ?_ rfl).trans (congrArg _ hfiles)⟩
    rw [makePage_apply hlocals hoptions hdirectory, work_apply, bind_apply]
    dsimp only
    rw [hregister]
    dsimp only
    rw [renderPage_apply, h]

/-- A command that comes to its page puts it out, with nothing printed and no file touched before. -/
theorem run_of_page {html : String}
    (hinvocation : Invocation.ofArguments files arguments = .ok (.command flags .render more))
    (hcommand : Command.ofArguments files .render more = .ok (.render r))
    (h : MakesPage files env flags r html) :
    ∃ c : Console, c.out = "" ∧ c.site.files = files ∧
      run files env arguments = outcomeOf flags (deliver r.output html) c := by
  obtain ⟨options, s, hready, hpage⟩ := h
  have hfiles := hready.keepsFiles
  obtain ⟨hload, hlocals, hoptions, hdirectory, hregister⟩ := hready
  refine ⟨{ site := (View.render (r.start 0 options s).1 (r.start 0 options s).2).2 }, rfl,
    (files_render _ _).trans hfiles, ?_⟩
  rw [run_eq_deliver hinvocation hcommand hload]
  refine outcomeOf_congr flags ?_
  rw [bind_apply, makePage_apply hlocals hoptions hdirectory, work_apply, bind_apply]
  dsimp only
  rw [hregister]
  dsimp only
  rw [renderPage_apply, hpage]

end Run

end DeferredViews.CommandLine
