import DeferredViews.Proofs.Setbacks
import DeferredViews.Proofs.Unaided
import DeferredViews.Proofs.Verbosity

/-!
# What a render command reports

A render command that prints its page either succeeds, or fails with an error on record, or a fault
escapes that no command deals with. Which faults escape is told here, stage by stage: those of the
configuration and of the locals that are no faults of data, locals under names that no option can
have, settings that cannot take other roots, a directory of partials that is no path, and the faults
that a render without helpers lets through.
-/
namespace DeferredViews

open View

/-! ## The timeout of a configuration -/

theorem Value.numeric_of_ordered {v : Value} {n : Int} {b : Bool}
    (h : Value.ordered .le v (.int n) = .ok b) : v.numeric?.isSome = true := by
  cases v <;> simp_all [Value.ordered, Value.numeric?, Value.text?]

namespace Config

theorem deadlineOf_rendering {autoescape timeout : Value} {rendering : Rendering}
    (h : Rendering.of autoescape timeout = .ok rendering) :
    ∃ d, deadlineOf rendering.timeout = .ok d := by
  unfold Rendering.of at h
  split at h
  · cases h
    exact ⟨none, rfl⟩
  · obtain ⟨b, hordered, hrest⟩ := ok_of_bind h
    have hnumber := Value.numeric_of_ordered hordered
    split at hrest
    · cases hrest
    · cases hrest
      unfold deadlineOf
      split
      · exact ⟨none, rfl⟩
      · exact ⟨_, if_pos hnumber⟩

/-- A configuration that loads has a timeout that can be kept. -/
theorem deadlineOf_loaded {files : Files.Tree} {env : List (String × String)}
    {path : Option Files.Path} {discover : Bool} {loaded : Loaded}
    (h : load files env path discover = .ok loaded) :
    ∃ d, deadlineOf loaded.settings.rendering.timeout = .ok d := by
  obtain ⟨data, hsettings⟩ := config_of_load h
  obtain ⟨resolved, -, h₁⟩ := ok_of_bind hsettings
  obtain ⟨v, -, h₂⟩ := ok_of_bind h₁
  obtain ⟨views, -, h₃⟩ := ok_of_bind h₂
  obtain ⟨layout, -, h₄⟩ := ok_of_bind h₃
  obtain ⟨c, -, h₅⟩ := ok_of_bind h₄
  obtain ⟨p, -, h₆⟩ := ok_of_bind h₅
  obtain ⟨partials, -, h₇⟩ := ok_of_bind h₆
  obtain ⟨q, -, h₈⟩ := ok_of_bind h₇
  obtain ⟨rendering, hrendering, hsame⟩ := ok_of_bind h₈
  rw [← Except.ok.inj hsame]
  cases q with
  | none =>
    cases hrendering
    exact ⟨none, rfl⟩
  | some w =>
    obtain ⟨found, hfound, hsome⟩ := ok_of_bind hrendering
    cases hsome
    obtain ⟨autoescape, -, hrest⟩ := ok_of_bind hfound
    obtain ⟨timeout, -, hof⟩ := ok_of_bind hrest
    exact deadlineOf_rendering hof

end Config

namespace CommandLine

open Files Run

/-! ## What escapes -/

section Escapes

variable (files : Tree) (env : List (String × String)) (flags : Flags) (r : Rendering)

/-- What a render command lets escape. -/
inductive Escapes : Fault → Prop
  | configuration {f : Fault} (h : Config.load files env flags.config true = .error f)
    (hfile : ∀ p, f ≠ .noConfiguration p) (hdata : isDataFault f = false) : Escapes f
  | locals {loaded : Config.Loaded} {f : Fault}
    (hload : Config.load files env flags.config true = .ok loaded)
    (h : localsIn files r.locals = .error f) (hdata : isDataFault f = false) : Escapes f
  /-- A local under a key that is no text. -/
  | key {loaded : Config.Loaded} {es : List (Value × Value)}
    (hload : Config.load files env flags.config true = .ok loaded)
    (hlocals : localsIn files r.locals = .ok es) (h : ∃ e ∈ es, e.1.text? = none) :
    Escapes (.type (.arguments "keywords must be strings"))
  /-- A local under the one name that is taken. -/
  | self {loaded : Config.Loaded} {es : List (Value × Value)} {locals : Locals}
    (hload : Config.load files env flags.config true = .ok loaded)
    (hlocals : localsIn files r.locals = .ok es) (hnamed : namedLocals es = .ok locals)
    (h : locals.contains "self" = true) :
    Escapes (.type (.arguments "got multiple values for argument 'self'"))
  /-- Roots are told, and the local settings cannot take them. -/
  | views {loaded : Config.Loaded} {es : List (Value × Value)} {locals options : Locals} {f : Fault}
    (hload : Config.load files env flags.config true = .ok loaded)
    (hlocals : localsIn files r.locals = .ok es) (hnamed : namedLocals es = .ok locals)
    (hoptions : loaded.settings.renderOptions locals = .ok options)
    (h : replaceViews r.views options = .error f) : Escapes f
  /-- The configured directory of partials is no path, or none that can be looked up. -/
  | directory {loaded : Config.Loaded} {es : List (Value × Value)} {options : Locals} {f : Fault}
    (hload : Config.load files env flags.config true = .ok loaded)
    (hlocals : localsIn files r.locals = .ok es)
    (hoptions : (namedLocals es >>= fun locals => renderOptions loaded.settings locals r) =
      .ok options)
    (h : partialsDirectory loaded.settings r = .error f) : Escapes f
  | nullDirectory {loaded : Config.Loaded} {es : List (Value × Value)} {options : Locals} {p : Path}
    (hload : Config.load files env flags.config true = .ok loaded)
    (hlocals : localsIn files r.locals = .ok es)
    (hoptions : (namedLocals es >>= fun locals => renderOptions loaded.settings locals r) =
      .ok options)
    (hdirectory : partialsDirectory loaded.settings r = .ok (some p))
    (h : p.names.any (·.contains '\x00') = true) : Escapes (.value "embedded null byte")
  | page {options : Locals} {s : Site} {f : Fault} (hready : Ready files env flags r options s)
    (h : (r.start 0 options s).2.LetsThrough (r.start 0 options s).1 f) : Escapes f

end Escapes

theorem Setback.ofConfiguration_eq_escaped {f g : Fault} :
    Setback.ofConfiguration f = .escaped g ↔
      f = g ∧ (∀ p, f ≠ .noConfiguration p) ∧ isDataFault f = false := by
  by_cases hfile : ∃ p, f = .noConfiguration p
  · obtain ⟨p, rfl⟩ := hfile
    simp [Setback.ofConfiguration]
  · have hother : Setback.ofConfiguration f =
        if isDataFault f then .reported ("Failed to load config: " ++ f.message)
        else .escaped f := by
      unfold Setback.ofConfiguration
      split
      · exact absurd ⟨_, rfl⟩ hfile
      · rfl
    have hnever : ∀ p, f ≠ .noConfiguration p := fun p hp => hfile ⟨p, hp⟩
    rw [hother]
    cases isDataFault f <;> simp [hnever]

theorem Setback.ofLocals_eq_escaped {f g : Fault} :
    Setback.ofLocals f = .escaped g ↔ f = g ∧ isDataFault f = false := by
  rw [Setback.ofLocals]
  cases isDataFault f <;> simp

theorem Setback.ofConfiguration_ne_cancelled (f : Fault) :
    Setback.ofConfiguration f ≠ .cancelled := by
  unfold Setback.ofConfiguration
  split
  · nofun
  · split <;> nofun

theorem Setback.ofLocals_ne_cancelled (f : Fault) : Setback.ofLocals f ≠ .cancelled := by
  unfold Setback.ofLocals
  split <;> nofun

theorem Setback.ofStop_eq_escaped {stop : Stop} {f : Fault} :
    Setback.ofStop stop = .escaped f ↔ stop = .fault f := by
  cases stop with
  | failure g => simp [Setback.ofStop, Stop.fault]
  | interrupt i => cases i <;> simp [Setback.ofStop, Stop.fault]

theorem namedLocals_cons_none {k v : Value} (h : k.text? = none) (es : List (Value × Value)) :
    namedLocals ((k, v) :: es) = .error (.type (.arguments "keywords must be strings")) := by
  rw [namedLocals, List.mapM_cons]
  dsimp only
  rw [h]
  rfl

theorem namedLocals_cons_some {k v : Value} {name : String} (h : k.text? = some name)
    (es : List (Value × Value)) :
    namedLocals ((k, v) :: es) = (namedLocals es).map ((name, v) :: ·) := by
  rw [namedLocals, List.mapM_cons]
  dsimp only
  rw [h]
  rfl

/-- Locals cannot be named exactly if some key is no text. -/
theorem namedLocals_error {es : List (Value × Value)} {f : Fault} :
    namedLocals es = .error f ↔
      (∃ e ∈ es, e.1.text? = none) ∧ f = .type (.arguments "keywords must be strings") := by
  induction es with
  | nil => simp [namedLocals, pure, Except.pure]
  | cons e es ih =>
    obtain ⟨k, v⟩ := e
    cases hk : k.text? with
    | none =>
      rw [namedLocals_cons_none hk]
      simp [hk, eq_comm]
    | some name =>
      have hes : (∃ e ∈ (k, v) :: es, e.1.text? = none) ↔ ∃ e ∈ es, e.1.text? = none := by
        simp [hk]
      rw [hes, ← ih, namedLocals_cons_some hk]
      cases namedLocals es with
      | error g => simp [Except.map]
      | ok more => simp [Except.map]

/-- Why locals cannot be taken for options. -/
theorem options_error {settings : Config.Settings} {r : Rendering} {es : List (Value × Value)}
    {f : Fault}
    (h : (namedLocals es >>= fun locals => renderOptions settings locals r) = .error f) :
    (∃ e ∈ es, e.1.text? = none) ∧ f = .type (.arguments "keywords must be strings") ∨
    ∃ locals, namedLocals es = .ok locals ∧
      (locals.contains "self" = true ∧
          f = .type (.arguments "got multiple values for argument 'self'") ∨
        ∃ options, settings.renderOptions locals = .ok options ∧
          replaceViews r.views options = .error f) := by
  cases hnamed : namedLocals es with
  | error g =>
    rw [hnamed] at h
    cases h
    exact .inl (namedLocals_error.mp hnamed)
  | ok locals =>
    rw [hnamed] at h
    refine .inr ⟨locals, rfl, ?_⟩
    change renderOptions settings locals r = .error f at h
    by_cases hself : locals.contains "self" = true
    · rw [renderOptions, Config.Settings.renderOptions, if_pos hself] at h
      cases h
      exact .inl ⟨hself, rfl⟩
    · refine .inr ⟨_, if_neg hself, ?_⟩
      rw [renderOptions, Config.Settings.renderOptions, if_neg hself] at h
      generalize Locals.update _ _ = options at h ⊢
      change (do
        let options ← replaceViews r.views options
        _) = _ at h
      cases hviews : replaceViews r.views options with
      | error g =>
        rw [hviews] at h
        exact h
      | ok replaced =>
        rw [hviews] at h
        cases h

theorem register_error {e : Nat} {directory : Option Path} {s : Site} {stop : Stop}
    (h : (register e directory s).1 = .error stop) :
    (∃ f, stop = .failure f) ∨ ∃ p, directory = some p ∧
      p.names.any (·.contains '\x00') = true ∧ stop = .fault (.value "embedded null byte") := by
  cases directory with
  | none => cases h
  | some p =>
    have hregister : (registerPartials e p s).1 = .error stop := by
      change (((registerPartials e p) >>= fun _ => pure ()) s).1 = _ at h
      rw [bind_apply] at h
      cases hresult : (registerPartials e p s).1 with
      | ok names =>
        rw [hresult] at h
        cases h
      | error stop' =>
        rw [hresult] at h
        cases h
        rfl
    by_cases hnull : p.names.any (·.contains '\x00') = true
    · rw [registerPartials_of_null e hnull] at hregister
      cases hregister
      exact .inr ⟨p, rfl, hnull, rfl⟩
    · cases hlist : listing s.files p with
      | error err =>
        rw [registerPartials_of_unlisted e hnull hlist] at hregister
        cases hregister
        exact .inl ⟨_, rfl⟩
      | ok paths =>
        obtain ⟨log, hrun⟩ := registerPartials_of_listed e hnull hlist
        rw [hrun, Harvest.answer] at hregister
        dsimp only at hregister
        split at hregister
        · cases hregister
        · cases hregister
          exact .inl ⟨_, rfl⟩

section Runs

variable {files : Tree} {env : List (String × String)} {flags : Flags} {r : Rendering}

/-- The render of a command has no helpers and a timeout that can be kept. -/
theorem Ready.unaided {options : Locals} {s : Site} (h : Ready files env flags r options s) :
    (r.start 0 options s).2.activity.helpers = [] ∧
      ∀ f, deadlineOf ((r.start 0 options s).2.engine 0).timeout ≠ .error f := by
  obtain ⟨loaded, sources, log, hload, rfl⟩ := h.site
  refine ⟨rfl, fun f hf => ?_⟩
  obtain ⟨d, hd⟩ := Config.deadlineOf_loaded hload
  have htimeout : ((siteOf files loaded).engine 0).setPartials sources =
      { loaded.settings.engine 0 with
        partials := (((siteOf files loaded).engine 0).setPartials sources).partials } := by
    rw [setPartials_eq]
    rfl
  have hengine : ∀ e : Engine, ({ (siteOf files loaded).setEngine 0 e with log } : Site).engine 0 = e :=
    fun e => rfl
  change deadlineOf (({ (siteOf files loaded).setEngine 0 _ with log } : Site).engine 0).timeout =
    _ at hf
  rw [hengine, htimeout] at hf
  cases hd.symm.trans hf

/-- What keeps a command from its page either is reported or escapes. -/
theorem not_meets_cancelled : ¬ Meets files env flags r .cancelled := by
  intro h
  generalize hx : Setback.cancelled = x at h
  cases h with
  | configuration _ => exact absurd hx.symm (Setback.ofConfiguration_ne_cancelled _)
  | locals _ _ => exact absurd hx.symm (Setback.ofLocals_ne_cancelled _)
  | options _ _ _ => cases hx
  | directory _ _ _ _ => cases hx
  | partials _ _ _ _ h =>
    obtain ⟨g, rfl⟩ | ⟨p, -, -, rfl⟩ := register_error h
    · cases hx
    · cases hx
  | page hready h =>
    obtain ⟨g, rfl⟩ | ⟨g, -, rfl⟩ := render_plainly hready.unaided.1 hready.unaided.2 h
    · cases hx
    · cases hx

theorem escapes_of_meets {f : Fault} (h : Meets files env flags r (.escaped f)) :
    Escapes files env flags r f := by
  generalize hx : Setback.escaped f = x at h
  cases h with
  | configuration h =>
    obtain ⟨rfl, hfile, hdata⟩ := Setback.ofConfiguration_eq_escaped.mp hx.symm
    exact .configuration h hfile hdata
  | locals hload h =>
    obtain ⟨rfl, hdata⟩ := Setback.ofLocals_eq_escaped.mp hx.symm
    exact .locals hload h hdata
  | options hload hlocals h =>
    cases hx
    obtain ⟨hkey, rfl⟩ | ⟨locals, hnamed, ⟨hself, rfl⟩ | ⟨options, hoptions, hviews⟩⟩ :=
      options_error h
    · exact .key hload hlocals hkey
    · exact .self hload hlocals hnamed hself
    · exact .views hload hlocals hnamed hoptions hviews
  | directory hload hlocals hoptions h =>
    cases hx
    exact .directory hload hlocals hoptions h
  | partials hload hlocals hoptions hdirectory h =>
    obtain rfl := Setback.ofStop_eq_escaped.mp hx.symm
    obtain ⟨g, hg⟩ | ⟨p, rfl, hnull, hg⟩ := register_error h
    · cases hg
    · cases hg
      exact .nullDirectory hload hlocals hoptions hdirectory hnull
  | page hready h =>
    obtain rfl := Setback.ofStop_eq_escaped.mp hx.symm
    obtain ⟨g, hg⟩ | ⟨g, hlets, hg⟩ := render_plainly hready.unaided.1 hready.unaided.2 h
    · cases hg
    · cases hg
      exact .page hready hlets

theorem meets_of_escapes {f : Fault} (h : Escapes files env flags r f) :
    Meets files env flags r (.escaped f) := by
  cases h with
  | configuration h hfile hdata =>
    rw [← Setback.ofConfiguration_eq_escaped.mpr ⟨rfl, hfile, hdata⟩]
    exact .configuration h
  | locals hload h hdata =>
    rw [← Setback.ofLocals_eq_escaped.mpr ⟨rfl, hdata⟩]
    exact .locals hload h
  | key hload hlocals h =>
    refine .options hload hlocals ?_
    rw [namedLocals_error.mpr ⟨h, rfl⟩]
    rfl
  | self hload hlocals hnamed h =>
    refine .options hload hlocals ?_
    rw [hnamed]
    show renderOptions _ _ _ = _
    rw [renderOptions, Config.Settings.renderOptions, if_pos h]
    rfl
  | views hload hlocals hnamed hoptions h =>
    refine .options hload hlocals ?_
    rw [hnamed]
    show renderOptions _ _ _ = _
    rw [renderOptions, hoptions]
    show (do
      let options ← replaceViews r.views _
      _) = _
    rw [h]
    rfl
  | directory hload hlocals hoptions h => exact .directory hload hlocals hoptions h
  | @nullDirectory loaded es options p hload hlocals hoptions hdirectory h =>
    show Meets files env flags r (.ofStop (.fault (.value "embedded null byte")))
    refine .partials hload hlocals hoptions hdirectory ?_
    show (((registerPartials 0 p) >>= fun _ => pure ()) (siteOf files loaded)).1 = _
    rw [bind_apply, registerPartials_of_null 0 h]
  | page hready h =>
    show Meets files env flags r (.ofStop (.fault f))
    exact .page hready h.render

variable {arguments more : List String}

/-- Every record of an error is written, however little a run is to tell. -/
theorem Outcome.error_mem_written {o : Outcome} {message : String}
    (h : Log.error Log.rootLogger message ∈ o.log) :
    Log.error Log.rootLogger message ∈ o.written := by
  obtain ⟨hpos, hle⟩ := o.handler_level false
  refine List.mem_filter.mpr ⟨h, ?_⟩
  rw [accepts_of_pos hpos]
  have hlevel : (o.handler false).level ≤ Log.errorLevel := Int.le_trans hle (by decide)
  have htree : Log.inTree Log.rootLogger = true := by decide +kernel
  show (Log.inTree Log.rootLogger && decide ((o.handler false).level ≤ Log.errorLevel)) = true
  rw [htree, Bool.true_and]
  exact decide_eq_true hlevel

/-- How a run of a render command ends that prints its page: it succeeds, or it fails with an error
that is written, or it fails because a fault escapes. The faults that escape are those listed, no
more and no fewer. -/
theorem reported_or_escaped
    (hinvocation : Invocation.ofArguments files arguments = .ok (.command flags .render more))
    (hcommand : Command.ofArguments files .render more = .ok (.render r))
    (houtput : r.output = none) :
    let o := run files env arguments
    (o.status = 0 ∧ o.escaped = none ∨
      o.status = failureStatus ∧ o.escaped = none ∧
        (∃ message, Log.error Log.rootLogger message ∈ o.written) ∨
      o.status = failureStatus ∧ ∃ f, o.escaped = some f) ∧
    ∀ f, o.escaped = some f ↔ Escapes files env flags r f := by
  intro o
  have hescapes : ∀ f, Escapes files env flags r f → o.escaped = some f := by
    intro f hf
    obtain ⟨log, ho⟩ := run_of_meets hinvocation hcommand (meets_of_escapes hf)
    exact congrArg Outcome.escaped ho
  obtain ⟨html, hpage⟩ | ⟨x, hx⟩ := makesPage_or_meets files env flags r
  · obtain ⟨c, -, -, ho⟩ := run_of_page hinvocation hcommand hpage
    rw [houtput] at ho
    have hstatus : o.status = 0 := congrArg Outcome.status ho
    have hnone : o.escaped = none := congrArg Outcome.escaped ho
    exact ⟨.inl ⟨hstatus, hnone⟩, fun f => ⟨fun hf => absurd (hnone.symm.trans hf) (Option.some_ne_none f).symm, hescapes f⟩⟩
  · obtain ⟨log, ho⟩ := run_of_meets hinvocation hcommand hx
    have hstatus : o.status = failureStatus := congrArg Outcome.status ho
    have hfault : o.escaped = x.fault? := congrArg Outcome.escaped ho
    cases x with
    | cancelled => exact absurd hx not_meets_cancelled
    | escaped f =>
      refine ⟨.inr (.inr ⟨hstatus, f, hfault⟩), fun g => ⟨fun hg => ?_, hescapes g⟩⟩
      obtain rfl : f = g := Option.some.inj (hfault.symm.trans hg)
      exact escapes_of_meets hx
    | reported message =>
      have hlog : o.log = log ++ [Log.error Log.rootLogger message] := congrArg Outcome.log ho
      have hmem : Log.error Log.rootLogger message ∈ o.log := by
        rw [hlog]
        exact List.mem_append_right _ (List.mem_singleton_self _)
      exact ⟨.inr (.inl ⟨hstatus, hfault, message, Outcome.error_mem_written hmem⟩),
        fun g => ⟨fun hg => absurd (hfault.symm.trans hg) (Option.some_ne_none g).symm, hescapes g⟩⟩

end Runs

/-- A directory with a page and two files of locals: one under a number, one under the name that is
taken. -/
def oddLocals : Tree :=
  { here := ["site"]
    entries :=
      [(["site"], .folder), (["site", "page.html"], .file (Text.encodeUtf8 "hi".toList)),
        (["site", "number.yaml"], .file (Text.encodeUtf8 "1: one\n".toList)),
        (["site", "self.yaml"], .file (Text.encodeUtf8 "self: one\n".toList))] }

/-- To render that page with some of the locals. -/
def withLocals (name : String) : Rendering :=
  { template := .ofText "page.html", noLayout := true, locals := some (.ofText name) }

theorem load_oddLocals : Config.load oddLocals [] none true = .ok {} := by
  refine load_without_file [] ?_
  simp only [Tree.fileExists, Tree.find?, Tree.place_eq]
  decide +kernel

theorem existing_oddLocals : ∀ name ∈ ["page.html", "number.yaml", "self.yaml"],
    existingFile oddLocals name = .ok (.ofText name) := by
  simp only [existingFile, entryAt, Tree.find?, Tree.place_eq]
  decide +kernel

theorem command_withLocals : ∀ name ∈ ["number.yaml", "self.yaml"],
    Command.ofArguments oddLocals .render ["page.html", "--no-layout", "--locals", name] =
      .ok (.render (withLocals name)) := by
  intro name hname
  let a : Arguments :=
    { options := [⟨"--no-layout", none⟩, ⟨"--locals", some name⟩], plain := ["page.html"] }
  have hread : readArguments CommandName.render.options true
      ["page.html", "--no-layout", "--locals", name] = .ok a := by
    rcases List.mem_pair.mp hname with rfl | rfl <;> decide +kernel
  have hpage := existing_oddLocals "page.html" (by simp)
  have hlocals := existing_oddLocals name (List.mem_cons_of_mem _ hname)
  have hviews : a.values "--views" = [] := rfl
  have hname : a.value? "--locals" = some name := rfl
  have hpartials : a.value? "--partials" = none := rfl
  rw [Command.ofArguments, hread]
  show (do return Command.render (← renderingOf oddLocals a "page.html")) = _
  rw [renderingOf, hpage, hviews, hname, hpartials, Option.mapM_some, hlocals]
  rfl

/-- The locals in one of these files, a mapping with one entry. -/
theorem localsIn_entry {source name : String} {p : Value → Bool}
    (hread : oddLocals.readText (.ofText name) = .ok source)
    (hyaml : (match Yaml.read source with
      | .ok (.dict [(k, _)]) => p k
      | _ => false) = true) :
    ∃ k v, localsIn oddLocals (withLocals name).locals = .ok [(k, v)] ∧ p k = true := by
  split at hyaml
  · next k v hdict =>
    refine ⟨k, v, ?_, hyaml⟩
    show localsFrom oddLocals (.ofText name) = _
    rw [localsFrom, hread]
    show Except.bind (Yaml.read source) _ = _
    rw [hdict]
    rfl
  · cases hyaml

/-- A page with locals under the name that is taken ends with a fault that escapes. -/
theorem escaped_of_self :
    let arguments := ["render", "page.html", "--no-layout", "--locals", "self.yaml"]
    let o := run oddLocals [] arguments
    Invocation.ofArguments oddLocals arguments = .ok (.command {} .render arguments.tail) ∧
      Command.ofArguments oddLocals .render arguments.tail = .ok (.render (withLocals "self.yaml")) ∧
      (withLocals "self.yaml").output = none ∧ o.status = failureStatus ∧
      o.escaped = some (.type (.arguments "got multiple values for argument 'self'")) := by
  intro arguments o
  have hinvocation : Invocation.ofArguments oddLocals arguments =
      .ok (.command {} .render arguments.tail) := by decide +kernel
  have hcommand := command_withLocals "self.yaml" (by simp)
  obtain ⟨hend, hescaped⟩ := @reported_or_escaped _ [] _ _ _ _ hinvocation hcommand rfl
  have hread : oddLocals.readText (.ofText "self.yaml") = .ok "self: one\n" := by
    simp only [Tree.readText, Tree.read, Tree.place_eq]
    decide +kernel
  obtain ⟨k, v, hlocals, hk⟩ := localsIn_entry (p := fun k => k.text? == some "self") hread
    (by decide +kernel)
  have hnamed : namedLocals [(k, v)] = .ok [("self", v)] := by
    rw [namedLocals_cons_some (eq_of_beq hk)]
    rfl
  have hfault := (hescaped _).mpr (.self load_oddLocals hlocals hnamed rfl)
  refine ⟨hinvocation, hcommand, rfl, ?_, hfault⟩
  rcases hend with ⟨-, hnone⟩ | ⟨-, hnone, -⟩ | ⟨hstatus, -⟩
  · cases hnone.symm.trans hfault
  · cases hnone.symm.trans hfault
  · exact hstatus

/-- A mapping with a number for a key is neither rendered nor reported. -/
theorem unreported_of_number :
    let o := run oddLocals [] ["render", "page.html", "--no-layout", "--locals", "number.yaml"]
    (∃ es, localsIn oddLocals (some (.ofText "number.yaml")) = .ok es) ∧
      o.status = failureStatus ∧ o.out = "" ∧ o.log = [] ∧
      o.escaped = some (.type (.arguments "keywords must be strings")) := by
  intro o
  have hinvocation : Invocation.ofArguments oddLocals
      ["render", "page.html", "--no-layout", "--locals", "number.yaml"] =
      .ok (.command {} .render ["page.html", "--no-layout", "--locals", "number.yaml"]) := by
    decide +kernel
  have hcommand := command_withLocals "number.yaml" (by simp)
  have hread : oddLocals.readText (.ofText "number.yaml") = .ok "1: one\n" := by
    simp only [Tree.readText, Tree.read, Tree.place_eq]
    decide +kernel
  obtain ⟨k, v, hlocals, hk⟩ := localsIn_entry (p := fun k => k.text?.isNone) hread
    (by decide +kernel)
  have hkey : ∃ e ∈ [(k, v)], e.1.text? = none :=
    ⟨(k, v), List.mem_singleton_self _, Option.isNone_iff_eq_none.mp hk⟩
  have hoptions : (namedLocals [(k, v)] >>= fun locals =>
      renderOptions ({} : Config.Loaded).settings locals (withLocals "number.yaml")) =
      .error (.type (.arguments "keywords must be strings")) := by
    rw [namedLocals_error.mpr ⟨hkey, rfl⟩]
    rfl
  have ho : o = _ := run_of_stopped hinvocation hcommand load_oddLocals
    (makePage_of_options hlocals hoptions) rfl
  rw [ho]
  exact ⟨⟨_, hlocals⟩, rfl, rfl, rfl, rfl⟩

end CommandLine
end DeferredViews
