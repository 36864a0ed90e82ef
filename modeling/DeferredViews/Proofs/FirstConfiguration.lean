import DeferredViews.Proofs.DefaultConfiguration
import DeferredViews.Proofs.Delivery
import DeferredViews.Proofs.WorkingDirectory

/-!
# A first configuration

The init command writes the default configuration to its place in the working directory. It has no
use for a configuration itself, but like every command it is run only once the configuration is
loaded. So an old file in that place is replaced if it loads, and stays as it is if it does not.
-/
namespace DeferredViews

namespace Config

open Files

variable {t : Tree}

/-- The default configuration is in its place, and nothing else has changed. -/
structure Founded (t u : Tree) : Prop where
  holds : u.at? (firstPlace t) = some (.file (Text.encodeUtf8 defaultText.toList))
  here : u.here = t.here
  frame : ∀ q, q ≠ firstPlace t → u.at? q = t.at? q

namespace Founded

variable {u : Tree}

theorem put (t : Tree) :
    Founded t (t.put (firstPlace t) (.file (Text.encodeUtf8 defaultText.toList))) :=
  ⟨t.at?_put_self _ _ (by simp [firstPlace]), t.here_put _ _, fun _ hq => t.at?_put_of_ne _ hq⟩

theorem atHome (h : Founded t u) (hhome : t.AtHome) : u.AtHome := by
  refine ⟨fun k hk => ?_, fun n hn => hhome.noParents n (h.here ▸ hn),
    fun n hn => hhome.nullFree n (h.here ▸ hn)⟩
  rw [h.here] at hk ⊢
  have hne : t.here.take k ≠ firstPlace t := by
    intro heq
    have hlength := congrArg List.length heq
    simp only [firstPlace, List.length_take, List.length_append, List.length_singleton] at hlength
    omega
  rw [h.frame _ hne]
  exact hhome.folders k hk

theorem read (h : Founded t u) (hhome : t.AtHome) :
    u.read (t.inHome ["jinjaview.yaml"]) = .ok (Text.encodeUtf8 defaultText.toList) := by
  have hfile : u.at? (u.here ++ ["jinjaview.yaml"]) =
      some (.file (Text.encodeUtf8 defaultText.toList)) := by
    rw [h.here]
    exact h.holds
  obtain ⟨hread, -⟩ := (h.atHome hhome).read_inHome (by decide) (nullFree_names _ (by simp)) hfile
  rwa [Tree.inHome, h.here] at hread

/-- From then on the default settings are loaded. -/
theorem load (h : Founded t u) (hhome : t.AtHome)
    (hhidden : t.at? (t.here ++ [".jinjaview", "config.yaml"]) = none) (env : List (String × String)) :
    Config.load u env none true = .ok ⟨{}, some (t.inHome ["jinjaview.yaml"])⟩ := by
  have hplace : firstPlace u = firstPlace t := by rw [firstPlace, h.here]
  have hsame : u.inHome ["jinjaview.yaml"] = t.inHome ["jinjaview.yaml"] := by
    rw [Tree.inHome, h.here, ← Tree.inHome]
  have hstill : u.at? (u.here ++ [".jinjaview", "config.yaml"]) = none := by
    rw [h.here, h.frame _ (by simp [firstPlace]), hhidden]
  rw [load_inHome (h.atHome hhome) hstill, hplace, h.holds, hsame]
  exact loadFrom_default env (h.read hhome)

end Founded
end Config

namespace CommandLine

open Files Text View Run Config

/-! ## Writing it -/

section

variable {c : Console}

theorem runInit_founded {force : Bool} (hhome : c.site.files.AtHome)
    (hfolder : c.site.files.at? (firstPlace c.site.files) ≠ some .folder)
    (h : force = true ∨ c.site.files.at? (firstPlace c.site.files) = none) :
    runInit force c =
      (.ok (),
        { site := { c.site with
            files := c.site.files.put (firstPlace c.site.files)
              (.file (Text.encodeUtf8 defaultText.toList)) }
          out := c.out ++
            printed ("Created " ++ (c.site.files.inHome ["jinjaview.yaml"]).text ++ "\n") }) := by
  have hexists := hhome.fileExists_inHome (by decide) (nullFree_names "jinjaview.yaml" (by simp))
  have hwrite := hhome.write_inHome (by decide) hfolder (Text.encodeUtf8 defaultText.toList)
  rw [runInit, bind_apply, get_apply]
  dsimp only
  rw [← Tree.inHome, hexists, hwrite, if_neg]
  · rfl
  · rintro ⟨hsome, hkeep⟩
    rcases h with rfl | hnone
    · cases hkeep
    · rw [hnone] at hsome
      cases hsome

theorem runInit_kept (hhome : c.site.files.AtHome)
    (h : (c.site.files.at? (firstPlace c.site.files)).isSome = true) :
    let x : Setback := .reported ("Config file already exists: " ++
      (c.site.files.inHome ["jinjaview.yaml"]).text ++ " (use --force to overwrite)")
    runInit false c = (.error x.halt, c.met x) := by
  have hexists := hhome.fileExists_inHome (by decide) (nullFree_names "jinjaview.yaml" (by simp))
  rw [runInit, bind_apply, get_apply]
  dsimp only
  rw [← Tree.inHome, hexists, if_pos ⟨h, rfl⟩]
  rfl

end

section

variable {files : Tree} {env : List (String × String)} {arguments more : List String}
  {flags : Flags} {force : Bool}

theorem run_init {loaded : Config.Loaded}
    (hinvocation : Invocation.ofArguments files arguments = .ok (.command flags .init more))
    (hcommand : Command.ofArguments files .init more = .ok (.init force))
    (hload : load files env flags.config true = .ok loaded) :
    run files env arguments = outcomeOf flags (runInit force) { site := siteOf files loaded } := by
  rw [run_eq_outcomeOf hinvocation]
  refine outcomeOf_congr flags ?_
  rw [runCommand_loaded hload, hcommand]
  rfl

/-- An old file is kept by a command that is not forced, whether it loads or not. -/
theorem run_init_kept (hhome : files.AtHome)
    (hinvocation : Invocation.ofArguments files arguments = .ok (.command flags .init more))
    (hcommand : Command.ofArguments files .init more = .ok (.init false))
    (hsome : (files.at? (firstPlace files)).isSome = true) :
    (run files env arguments).LeavesNothing files := by
  cases hload : load files env flags.config true with
  | error f =>
    obtain ⟨log, ho⟩ := run_of_unloaded hinvocation hload
    rw [ho]
    exact Setback.leavesNothing _ flags log files
  | ok loaded =>
    have hrun := runInit_kept (c := { site := siteOf files loaded }) hhome hsome
    rw [run_init hinvocation hcommand hload, outcomeOf_met hrun rfl]
    exact Setback.leavesNothing _ flags _ files

theorem run_init_founded {loaded : Config.Loaded} (hhome : files.AtHome)
    (hfolder : files.at? (firstPlace files) ≠ some .folder)
    (hinvocation : Invocation.ofArguments files arguments = .ok (.command flags .init more))
    (hcommand : Command.ofArguments files .init more = .ok (.init force))
    (hload : load files env flags.config true = .ok loaded)
    (h : force = true ∨ files.at? (firstPlace files) = none) :
    let o := run files env arguments
    o.status = 0 ∧ Founded files o.files ∧
      o.out = printed ("Created " ++ (files.inHome ["jinjaview.yaml"]).text ++ "\n") := by
  intro o
  have hrun : (runInit force).run { site := siteOf files loaded } = _ :=
    runInit_founded (c := { site := siteOf files loaded }) hhome hfolder h
  have ho : o = _ := run_init hinvocation hcommand hload
  rw [ho, outcomeOf, hrun]
  exact ⟨rfl, .put files, String.empty_append⟩

/-- What comes of an init command, in a working directory where no directory stands in the place of
the configuration. A file that stands there is kept unless the command is forced. If it is, or if
there is none, all depends on whether the configuration loads, though the command has no use for it:
if it does, the default configuration is in its place afterwards and nothing else has changed; if it
does not, all files are as they were. With no other configuration named or hidden away, it is the
old file itself that has to load; where there is none, the command succeeds, and where it succeeds,
the default settings are loaded from then on. -/
theorem init_replaces_what_loads (hhome : files.AtHome)
    (hfolder : files.at? (firstPlace files) ≠ some .folder)
    (hinvocation : Invocation.ofArguments files arguments = .ok (.command flags .init more))
    (hcommand : Command.ofArguments files .init more = .ok (.init force)) :
    let p := files.inHome ["jinjaview.yaml"]
    let o := run files env arguments
    (force = false → files.at? (firstPlace files) ≠ none → o.LeavesNothing files) ∧
    (force = true ∨ files.at? (firstPlace files) = none →
      (∀ f, load files env flags.config true = .error f →
        ∃ log, o = (Setback.ofConfiguration f).outcome flags log files) ∧
      (∀ loaded, load files env flags.config true = .ok loaded →
        o.status = 0 ∧ Founded files o.files ∧ o.out = printed ("Created " ++ p.text ++ "\n"))) ∧
    (files.at? (files.here ++ [".jinjaview", "config.yaml"]) = none →
      (flags.config = none → load files env flags.config true =
        if (files.at? (firstPlace files)).isSome then loadFrom files env p else .ok {}) ∧
      (o.status = 0 → ∀ env', load o.files env' none true = .ok ⟨{}, some p⟩)) := by
  intro p o
  have hkept : force = false → files.at? (firstPlace files) ≠ none → o.LeavesNothing files := by
    rintro rfl hsome
    exact run_init_kept hhome hinvocation hcommand (Option.isSome_iff_ne_none.mpr hsome)
  refine ⟨hkept, fun h => ⟨fun f hload => run_of_unloaded hinvocation hload, fun loaded hload =>
    run_init_founded hhome hfolder hinvocation hcommand hload h⟩,
    fun hhidden => ⟨fun hconfig => ?_, fun hzero env' => ?_⟩⟩
  · rw [hconfig]
    exact load_inHome hhome hhidden env
  · have h : force = true ∨ files.at? (firstPlace files) = none := by
      rw [← Bool.not_eq_false]
      by_contra hneither
      obtain ⟨hforce, hsome⟩ := not_or.mp hneither
      exact (hkept (not_not.mp hforce) hsome).failed hzero
    cases hload : load files env flags.config true with
    | error f =>
      obtain ⟨log, ho⟩ := run_of_unloaded hinvocation hload
      have hfailed := Setback.leavesNothing (.ofConfiguration f) flags log files
      rw [← ho] at hfailed
      exact absurd hzero hfailed.failed
    | ok loaded =>
      obtain ⟨-, hfounded, -⟩ := run_init_founded hhome hfolder hinvocation hcommand hload h
      exact hfounded.load hhome hhidden env'

end

/-- A directory with a configuration. -/
abbrev withConfiguration (text : String) : Tree := .oneFile "jinjaview.yaml" text

theorem load_withConfiguration (text : String) :
    load (withConfiguration text) [] none true =
      (do
        let data ← (Yaml.read text).map fun v => orEmpty (some v)
        let settings ← Settings.ofValue [] data
        .ok ⟨settings, some ((withConfiguration text).inHome ["jinjaview.yaml"])⟩) := by
  have hhome := Tree.atHome_oneFile "jinjaview.yaml" text
  obtain ⟨hread, -⟩ := hhome.read_inHome (by decide) (nullFree_names _ (by simp)) Tree.at?_oneFile
  rw [load_inHome hhome rfl, Tree.at?_oneFile, Option.isSome_some, if_pos rfl, loadFrom,
    dataOf_written hread]

theorem command_forced (files : Tree) :
    ∀ s ∈ ["-f", "--force"], Command.ofArguments files .init [s] = .ok (.init true) := by
  have hread : ∀ s ∈ ["-f", "--force"], readArguments CommandName.init.options true [s] =
      .ok { options := [⟨"--force", none⟩] } := by decide +kernel
  intro s hs
  rw [Command.ofArguments, hread s hs]
  rfl

theorem read_oldText :
    (match Yaml.read "cache: true\n" with
      | .ok (.dict [(.str "cache", .bool true)]) => true
      | _ => false) = true := by
  decide +kernel

/-- An old configuration that loads is replaced. -/
theorem init_forced_of_old :
    let files := withConfiguration "cache: true\n"
    let o := run files [] ["init", "-f"]
    files.AtHome ∧ files.at? (firstPlace files) ≠ some .folder ∧ o.status = 0 ∧
      Founded files o.files := by
  intro files o
  have hhome : files.AtHome := Tree.atHome_oneFile _ _
  have hfile : files.at? (firstPlace files) = some (.file (encodeUtf8 "cache: true\n".toList)) :=
    Tree.at?_oneFile
  have hfolder : files.at? (firstPlace files) ≠ some .folder := by simp [hfile]
  have hinvocation : Invocation.ofArguments files ["init", "-f"] = .ok (.command {} .init ["-f"]) :=
    invocation_of_name files rfl _
  have hcommand := command_forced files "-f" (by simp)
  have hread := read_oldText
  split at hread
  · next hdata =>
    obtain ⟨-, hforced, -⟩ :=
      @init_replaces_what_loads _ [] _ _ _ _ hhome hfolder hinvocation hcommand
    have hload := load_withConfiguration "cache: true\n"
    rw [hdata] at hload
    obtain ⟨hstatus, hfounded, -⟩ := (hforced (.inl rfl)).2 _ hload
    exact ⟨hhome, hfolder, hstatus, hfounded⟩
  · cases hread

/-- One that is not well formed stays, though the command is forced. -/
theorem init_forced_of_malformed :
    let files := withConfiguration "views: ["
    let o := run files [] ["init", "--force"]
    files.AtHome ∧ files.at? (files.here ++ [".jinjaview", "config.yaml"]) = none ∧
      Command.ofArguments files .init ["--force"] = .ok (.init true) ∧
      o.status = failureStatus ∧ o.out = "" ∧ o.files = files ∧ ¬ Founded files o.files := by
  intro files o
  have hinvocation : Invocation.ofArguments files ["init", "--force"] =
      .ok (.command {} .init ["--force"]) := invocation_of_name files rfl _
  have hcommand := command_forced files "--force" (by simp)
  have hread : (Yaml.read "views: [").toOption.isSome = false := by decide +kernel
  cases hmalformed : Yaml.read "views: [" with
  | ok v =>
    rw [hmalformed] at hread
    cases hread
  | error f =>
    have hload := load_withConfiguration "views: ["
    rw [hmalformed] at hload
    obtain ⟨log, ho⟩ := run_of_unloaded hinvocation hload
    change o = _ at ho
    rw [ho]
    refine ⟨Tree.atHome_oneFile _ _, rfl, hcommand, rfl, rfl, rfl, fun hfounded => ?_⟩
    have hbytes : encodeUtf8 "views: [".toList = encodeUtf8 defaultText.toList :=
      Entry.file.inj (Option.some.inj hfounded.holds)
    have hmark : defaultText.toList.head? = some '#' := by
      rw [toList_defaultText, defaultLines, List.flatMap_cons]
      rfl
    rw [← encodeUtf8_injective hbytes] at hmark
    cases hmark

end CommandLine
end DeferredViews
