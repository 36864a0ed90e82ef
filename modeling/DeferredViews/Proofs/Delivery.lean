import DeferredViews.Proofs.Folders
import DeferredViews.Proofs.Leaks
import DeferredViews.Proofs.Setbacks
import DeferredViews.Proofs.Verbosity
import Mathlib.Data.List.TakeDrop

/-!
# All or nothing

A render command that comes to no page prints nothing and leaves the files exactly as they were. One
that comes to a page prints it, and leaves the files as they were; or it prints nothing and writes the
page to a file, and then nothing else has changed but for directories made on the way to that file.
-/
namespace DeferredViews

/-! ## Arguments without null characters

No argument of a program holds a null character, and so no path that is read from one does.
-/

namespace Text

theorem mem_of_mem_splitOn {sep : Char → Bool} {s piece : List Char} {c : Char}
    (h : piece ∈ splitOn sep s) (hc : c ∈ piece) : c ∈ s := by
  induction s generalizing piece with
  | nil =>
    obtain rfl : piece = [] := by simpa [splitOn] using h
    cases hc
  | cons d s ih =>
    rw [splitOn] at h
    split at h
    · rcases List.mem_cons.mp h with rfl | h
      · cases hc
      · exact List.mem_cons_of_mem _ (ih h hc)
    · split at h
      · obtain rfl := List.mem_singleton.mp h
        exact List.mem_singleton.mp hc ▸ List.mem_cons_self
      · next first more hsplit =>
        rcases List.mem_cons.mp h with rfl | h
        · rcases List.mem_cons.mp hc with rfl | hc
          · exact List.mem_cons_self
          · exact List.mem_cons_of_mem _ (ih (hsplit ▸ List.mem_cons_self) hc)
        · exact List.mem_cons_of_mem _ (ih (hsplit ▸ List.mem_cons_of_mem _ h) hc)

end Text

theorem Files.Path.nullFree_ofText {s : String} (h : Text.NullFree s) : (Path.ofText s).NullFree := by
  intro n hn hnull
  obtain ⟨piece, hpiece, heq⟩ := List.mem_filterMap.mp hn
  split at heq
  · cases heq
  · obtain rfl := Option.some.inj heq
    rw [String.toList_ofList] at hnull
    exact h (Text.mem_of_mem_splitOn hpiece hnull)

namespace CommandLine

open Files Text View Run

/-- Options and arguments without null characters. -/
structure AreNullFree (given : List Given) (plain : List String) : Prop where
  values : ∀ o ∈ given, ∀ v, o.value = some v → NullFree v
  plain : ∀ s ∈ plain, NullFree s

theorem AreNullFree.nil {plain : List String} (h : ∀ s ∈ plain, NullFree s) :
    AreNullFree [] plain :=
  ⟨fun _ hmem => absurd hmem List.not_mem_nil, h⟩

theorem AreNullFree.cons {o : Given} {given : List Given} {plain : List String}
    (ho : ∀ v, o.value = some v → NullFree v) (h : AreNullFree given plain) :
    AreNullFree (o :: given) plain := by
  refine ⟨fun x hx => ?_, h.plain⟩
  rcases List.mem_cons.mp hx with rfl | hx
  · exact ho
  · exact h.values x hx

/-- An option without a value brings no null character with it. -/
theorem AreNullFree.flag {name : String} {given : List Given} {plain : List String}
    (h : AreNullFree given plain) : AreNullFree (⟨name, none⟩ :: given) plain :=
  .cons (fun _ hv => absurd hv.symm (Option.some_ne_none _)) h

theorem readCluster_nullFree {kinds : List OptionKind} {more rest : List String} {cs : List Char}
    {given : List Given} (h : readCluster kinds more cs = .ok (given, rest))
    (hmore : ∀ s ∈ more, NullFree s) (hcs : '\x00' ∉ cs) : AreNullFree given rest := by
  induction cs generalizing given rest with
  | nil =>
    cases h
    exact .nil hmore
  | cons c cs ih =>
    have hrest : '\x00' ∉ cs := fun hmem => hcs (List.mem_cons_of_mem _ hmem)
    rw [readCluster] at h
    split at h
    · cases h
    · next k hk =>
      split at h
      · split at h
        · split at h
          · cases h
          · next v more' =>
            cases h
            refine .cons ?_ (.nil fun s hs => hmore s (List.mem_cons_of_mem _ hs))
            rintro w ⟨⟩
            exact hmore v List.mem_cons_self
        · cases h
          refine .cons ?_ (.nil hmore)
          rintro w ⟨⟩
          simpa [NullFree] using hrest
      · obtain ⟨⟨given', rest'⟩, hcluster, hok⟩ := ok_of_bind h
        cases hok
        exact .flag (ih hcluster hrest)

theorem splitValue_nullFree {s name v : String} (hs : NullFree s)
    (h : splitValue s = (name, some v)) : NullFree v := by
  rw [splitValue] at h
  split at h
  · next before c value hspan =>
    obtain ⟨-, rfl⟩ : _ ∧ String.ofList value = v := by simpa using h
    have hlist : s.toList = before ++ c :: value := by
      have happend := List.span_eq_takeWhile_dropWhile (fun c : Char => decide (c ≠ '=')) s.toList
      rw [hspan] at happend
      obtain ⟨rfl, hdrop⟩ := Prod.mk.inj happend
      rw [hdrop, List.takeWhile_append_dropWhile]
    rw [NullFree, hlist] at hs
    rw [NullFree, String.toList_ofList]
    exact fun hmem => hs (by simp [hmem])
  · cases h

theorem readOption_nullFree {kinds : List OptionKind} {s : String} {more rest : List String}
    {given : List Given} (h : readOption kinds s more = .ok (given, rest)) (hs : NullFree s)
    (hmore : ∀ s ∈ more, NullFree s) : AreNullFree given rest := by
  rw [readOption] at h
  cases hvalue : splitValue s with
  | mk name value =>
    rw [hvalue] at h
    dsimp only at h
    split at h
    · split at h
      · next k v more' _ _ =>
        cases h
        refine .cons ?_ (.nil hmore)
        rintro w ⟨⟩
        exact splitValue_nullFree hs hvalue
      · cases h
    · next k v more' _ =>
      have hv := hmore v List.mem_cons_self
      have hmore' := fun x hx => hmore x (List.mem_cons_of_mem v hx)
      split at h
      · cases h
        refine .cons ?_ (.nil hmore')
        rintro w ⟨⟩
        exact hv
      · cases h
        exact .flag (.nil hmore)
    · split at h
      · cases h
      · cases h
        exact .flag (.nil hmore)
    · split at h
      · cases h
      · exact readCluster_nullFree h hmore fun hmem => hs (List.mem_of_mem_drop hmem)

/-- What is read from arguments without null characters has none. -/
theorem readArguments_nullFree {kinds : List OptionKind} {mixed : Bool} {args : List String}
    {a : Arguments} (h : readArguments kinds mixed args = .ok a) (hargs : ∀ s ∈ args, NullFree s) :
    AreNullFree a.options a.plain := by
  induction args using readArguments.induct kinds mixed generalizing a with
  | case1 =>
    rw [readArguments] at h
    cases h
    exact .nil fun _ hmem => absurd hmem List.not_mem_nil
  | case2 more =>
    rw [readArguments, if_pos rfl] at h
    cases h
    exact .nil fun s hs => hargs s (List.mem_cons_of_mem _ hs)
  | case3 s more hend hoption e hread =>
    rw [readArguments, if_neg hend, if_pos hoption] at h
    split at h
    · cases h
    · next given rest hread' => cases hread.symm.trans hread'
  | case4 s more hend hoption given rest hread ih =>
    have hs := hargs s List.mem_cons_self
    have hgiven := readOption_nullFree hread hs fun x hx => hargs x (List.mem_cons_of_mem _ hx)
    rw [readArguments, if_neg hend, if_pos hoption] at h
    split at h
    · cases h
    · next given' rest' hread' =>
      cases hread.symm.trans hread'
      obtain ⟨b, hb, hok⟩ := ok_of_bind h
      cases hok
      have hrest := ih hb hgiven.plain
      refine ⟨fun o ho => ?_, hrest.plain⟩
      rcases List.mem_append.mp ho with ho | ho
      · exact hgiven.values o ho
      · exact hrest.values o ho
  | case5 s more hend hoption hmixed ih =>
    rw [readArguments, if_neg hend, if_neg hoption, if_pos hmixed] at h
    obtain ⟨b, hb, hok⟩ := ok_of_bind h
    cases hok
    have hrest := ih hb fun x hx => hargs x (List.mem_cons_of_mem _ hx)
    refine ⟨hrest.values, fun x hx => ?_⟩
    rcases List.mem_cons.mp hx with rfl | hx
    · exact hargs x List.mem_cons_self
    · exact hrest.plain x hx
  | case6 s more hend hoption hmixed =>
    rw [readArguments, if_neg hend, if_neg hoption, if_neg hmixed] at h
    cases h
    exact .nil hargs

theorem nullFree_of_values {a : Arguments} (h : AreNullFree a.options a.plain) {name v : String}
    (hv : a.value? name = some v) : NullFree v := by
  have hmem : v ∈ a.values name := List.mem_of_getLast? hv
  obtain ⟨o, ho, hvalue⟩ := List.mem_filterMap.mp hmem
  exact h.values o (List.mem_filter.mp ho).1 v hvalue

theorem plain_of_invocation {files : Tree} {a : Arguments} {flags : Flags} {name : CommandName}
    {more : List String} (h : a.invocation files = .ok (.command flags name more)) :
    ∃ s, a.plain = s :: more := by
  rw [Arguments.invocation] at h
  split at h
  · split at h <;> cases h
  · obtain ⟨flags', -, hrest⟩ := ok_of_bind h
    split at hrest
    · cases hrest
    · next s more' hplain =>
      split at hrest
      · cases hrest
        exact ⟨s, hplain⟩
      · cases hrest

/-- The file that a command line names for the page has no null character in its path. -/
theorem output_nullFree {files : Tree} {arguments more : List String} {flags : Flags}
    {name : CommandName} {r : Rendering} {p : Path} (harguments : ∀ s ∈ arguments, NullFree s)
    (hinvocation : Invocation.ofArguments files arguments = .ok (.command flags name more))
    (hcommand : Command.ofArguments files .render more = .ok (.render r))
    (houtput : r.output = some p) : p.NullFree := by
  rw [ofArguments_eq] at hinvocation
  obtain ⟨a, ha, hinvoked⟩ := ok_of_bind hinvocation
  obtain ⟨s, hplain⟩ := plain_of_invocation hinvoked
  have hmore : ∀ x ∈ more, NullFree x := fun x hx =>
    (readArguments_nullFree ha harguments).plain x (hplain ▸ List.mem_cons_of_mem s hx)
  obtain ⟨b, template, hb, -, -, hrendering⟩ := command_eq_render_iff.mp hcommand
  obtain ⟨path, -, h₁⟩ := ok_of_bind hrendering
  obtain ⟨views, -, h₂⟩ := ok_of_bind h₁
  obtain ⟨locals, -, h₃⟩ := ok_of_bind h₂
  obtain ⟨partials, -, h₄⟩ := ok_of_bind h₃
  cases h₄
  obtain ⟨v, hv, rfl⟩ := Option.map_eq_some_iff.mp houtput
  exact Path.nullFree_ofText (nullFree_of_values (readArguments_nullFree hb hmore) hv)

/-! ## Putting the page out -/

theorem orEscapeFile_apply {α : Type} (x : Except FileError α) (c : Console) :
    orEscapeFile x c = (x.mapError fun e => .fault (.unreadable (.file e)), c) := by
  cases x <;> rfl

/-- What writing a page comes to: directories are made first, then the file is written. -/
theorem writePage_apply (html : String) (p : Path) (c : Console) :
    ∃ log, writePage html p c =
      match c.site.files.makeFolders (p.parent.names.length + 1) p.parent with
      | .error e => (.error (.fault (.unreadable (.file e))), c)
      | .ok t =>
        match t.write p (encodeUtf8 html.toList) with
        | .error e =>
          (.error (.fault (.unreadable (.file e))), { c with site := { c.site with files := t } })
        | .ok u => (.ok (), { c with site := { c.site with files := u, log } }) := by
  refine ⟨c.site.log ++ [Log.info Log.rootLogger
    ("Wrote " ++ toString html.length ++ " characters to " ++ p.text)], ?_⟩
  rw [writePage, bind_apply, get_apply]
  dsimp only
  rw [bind_apply, orEscapeFile_apply]
  cases c.site.files.makeFolders (p.parent.names.length + 1) p.parent with
  | error e => rfl
  | ok t =>
    show (do
      let files ← orEscapeFile (t.write p (encodeUtf8 html.toList))
      modify fun c => { c with site := { c.site with files } }
      rootInfo ("Wrote " ++ toString html.length ++ " characters to " ++ p.text) : Run Unit)
        { c with site := { c.site with files := t } } = _
    dsimp only
    rw [bind_apply, orEscapeFile_apply]
    cases t.write p (encodeUtf8 html.toList) with
    | error e => rfl
    | ok u => rfl

theorem failureStatus_ne_zero : failureStatus ≠ 0 := by decide

theorem usageStatus_ne_zero : usageStatus ≠ 0 := by decide

/-- A page that goes to a file is not printed, and what changes is told by the status. -/
theorem deliver_file {c : Console} {p : Path} (hnull : p.NullFree) (html : String) (flags : Flags) :
    let o := outcomeOf flags (deliver (some p) html) c
    o.out = c.out ∧
      (o.status = 0 → c.site.files.Receives o.files p (encodeUtf8 html.toList)) ∧
      (o.status ≠ 0 → c.site.files.Grows o.files p.parent) ∧
      ((c.site.files.makeFolders (p.parent.names.length + 1) p.parent >>= fun t =>
        t.write p (encodeUtf8 html.toList)).toOption.isSome = true → o.status = 0) := by
  obtain ⟨log, hpage⟩ := writePage_apply html p c
  have hrun : (deliver (some p) html).run c = writePage html p c := rfl
  dsimp only
  rw [outcomeOf, hrun, hpage]
  cases hmade : c.site.files.makeFolders (p.parent.names.length + 1) p.parent with
  | error e => exact ⟨rfl, fun hzero => absurd hzero failureStatus_ne_zero, fun _ => .refl _ _,
      fun hsome => absurd hsome Bool.false_ne_true⟩
  | ok t =>
    have hgrown := Tree.makeFolders_grows hnull.parent hmade
    dsimp only
    cases hwrite : t.write p (encodeUtf8 html.toList) with
    | error e =>
      refine ⟨rfl, fun hzero => absurd hzero failureStatus_ne_zero, fun _ => hgrown, fun hsome => ?_⟩
      change (t.write p (encodeUtf8 html.toList)).toOption.isSome = true at hsome
      rw [hwrite] at hsome
      cases hsome
    | ok u =>
      exact ⟨rfl, fun _ => hgrown.receives hnull hwrite, fun hne => absurd rfl hne, fun _ => rfl⟩

/-- A run that failed without a trace: nothing is printed, and the files are as they were. -/
structure Outcome.LeavesNothing (o : Outcome) (files : Tree) : Prop where
  failed : o.status ≠ 0
  out : o.out = ""
  files : o.files = files

theorem Setback.leavesNothing (x : Setback) (flags : Flags) (log : List Log.Record)
    (files : Tree) : (x.outcome flags log files).LeavesNothing files :=
  ⟨failureStatus_ne_zero, rfl, rfl⟩

section

variable {files : Tree} {env : List (String × String)} {arguments more : List String}
  {flags : Flags} {loaded : Config.Loaded}

/-- Arguments that make no sense end the run. -/
theorem leavesNothing_of_usage
    (hinvocation : Invocation.ofArguments files arguments = .ok (.command flags .render more))
    (hload : Config.load files env flags.config true = .ok loaded)
    (husage : Command.ofArguments files .render more = .error .usage) :
    (run files env arguments).LeavesNothing files := by
  have hrun : (runCommand env flags .render more).run (.start files) = _ := runCommand_loaded hload
  rw [run_eq_outcomeOf hinvocation, outcomeOf, hrun, husage]
  exact ⟨usageStatus_ne_zero, rfl, rfl⟩

/-- To ask for help on the command changes no file. -/
theorem files_of_help
    (hinvocation : Invocation.ofArguments files arguments = .ok (.command flags .render more))
    (hload : Config.load files env flags.config true = .ok loaded)
    (hhelp : Command.ofArguments files .render more = .ok .help) :
    (run files env arguments).files = files := by
  have hrun : (runCommand env flags .render more).run (.start files) = _ := runCommand_loaded hload
  rw [run_eq_outcomeOf hinvocation, outcomeOf, hrun, hhelp]
  rfl

end

/-- A render command is all or nothing. If its arguments make no sense, its configuration does not
load, its locals cannot be read, its partials cannot be registered, or its page cannot be rendered,
the run fails, prints nothing and leaves all files as they were. If it comes to a page and no file
is named for it, the page is printed and all files are as they were. If a file is named for it,
nothing is printed, and a run that succeeds has written the page to that file and changed nothing
else but for directories made on the way to it. -/
theorem render_all_or_nothing {arguments : List String} (harguments : ∀ s ∈ arguments, NullFree s)
    (files : Tree) (env : List (String × String)) :
    let o := run files env arguments
    (Invocation.ofArguments files arguments = .error .usage → o.LeavesNothing files) ∧
    ∀ flags more, Invocation.ofArguments files arguments = .ok (.command flags .render more) →
      (∀ f, Config.load files env flags.config true = .error f → o.LeavesNothing files) ∧
      (Command.ofArguments files .render more = .error .usage → o.LeavesNothing files) ∧
      (Command.ofArguments files .render more = .ok .help → o.files = files) ∧
      ∀ r, Command.ofArguments files .render more = .ok (.render r) →
        ((∀ html, ¬ MakesPage files env flags r html) → o.LeavesNothing files) ∧
        ∀ html, MakesPage files env flags r html →
          match r.output with
          | none => o.status = 0 ∧ o.out = printed html ∧ o.files = files
          | some p => o.out = "" ∧
            (o.status = 0 → files.Receives o.files p (encodeUtf8 html.toList)) ∧
            (o.status ≠ 0 → files.Grows o.files p.parent) := by
  intro o
  refine ⟨fun hinvocation => ?_, fun flags more hinvocation => ?_⟩
  · have ho : o = { status := usageStatus, files } := by
      show run files env arguments = _
      rw [run, hinvocation]
    rw [ho]
    exact ⟨usageStatus_ne_zero, rfl, rfl⟩
  have hunloaded : ∀ f, Config.load files env flags.config true = .error f →
      o.LeavesNothing files := by
    intro f hload
    obtain ⟨log, ho⟩ := run_of_unloaded hinvocation hload
    change o = _ at ho
    rw [ho]
    exact Setback.leavesNothing _ flags log files
  refine ⟨hunloaded, fun husage => ?_, fun hhelp => ?_, fun r hcommand => ⟨fun hnone => ?_,
    fun html hpage => ?_⟩⟩
  · cases hload : Config.load files env flags.config true with
    | error f => exact hunloaded f hload
    | ok loaded => exact leavesNothing_of_usage hinvocation hload husage
  · cases hload : Config.load files env flags.config true with
    | error f => exact (hunloaded f hload).files
    | ok loaded => exact files_of_help hinvocation hload hhelp
  · obtain ⟨html, hpage⟩ | ⟨x, hx⟩ := makesPage_or_meets files env flags r
    · exact absurd hpage (hnone html)
    · obtain ⟨log, ho⟩ := run_of_meets hinvocation hcommand hx
      change o = _ at ho
      rw [ho]
      exact x.leavesNothing flags log files
  · obtain ⟨c, hout, hfiles, ho⟩ := run_of_page hinvocation hcommand hpage
    change o = _ at ho
    subst hfiles
    cases houtput : r.output with
    | none =>
      rw [houtput] at ho
      rw [ho]
      refine ⟨rfl, ?_, rfl⟩
      show c.out ++ printed html = printed html
      rw [hout, String.empty_append]
    | some p =>
      rw [houtput] at ho
      rw [ho, ← hout]
      have hnull := output_nullFree harguments hinvocation hcommand houtput
      obtain ⟨hprinted, hwritten, hfailed, -⟩ := deliver_file (c := c) hnull html flags
      exact ⟨hprinted, hwritten, hfailed⟩

/-- A directory with a page. -/
def helloSite : Tree :=
  { here := ["site"]
    entries := [(["site"], .folder), (["site", "page.html"], .file (encodeUtf8 "hi".toList))] }

/-- To render that page without a layout, into a directory that is missing. -/
def helloElsewhere : Rendering :=
  { template := .ofText "page.html", noLayout := true,
    output := some (.ofText "out/pages/hi.html") }

theorem command_helloElsewhere :
    Command.ofArguments helloSite .render ["page.html", "--no-layout", "-o", "out/pages/hi.html"] =
      .ok (.render helloElsewhere) := by
  simp only [Command.ofArguments, renderingOf, existingFile, entryAt, Tree.find?, Tree.place_eq]
  decide +kernel

theorem load_helloSite : Config.load helloSite [] none true = .ok {} := by
  refine load_without_file [] ?_
  simp only [Tree.fileExists, Tree.find?, Tree.place_eq]
  decide +kernel

theorem makesPage_helloElsewhere : MakesPage helloSite [] {} helloElsewhere "hi" := by
  let options := (renderOptions {} [] helloElsewhere).toOption.getD []
  let site := (helloElsewhere.start 0 options (siteOf helloSite {})).2
  have hready : Ready helloSite [] {} helloElsewhere options (siteOf helloSite {}) :=
    .intro load_helloSite rfl rfl rfl rfl
  have htext : templateText helloSite "/site/page.html" = .ok "hi" := by
    simp only [templateText, Tree.readText, Tree.read, Tree.place_eq]
    decide +kernel
  have hpath : (helloElsewhere.start 0 options (siteOf helloSite {})).1 =
      ⟨0, "/site/page.html", 0⟩ := by decide +kernel
  refine ⟨options, _, hready, ?_⟩
  rw [hpath, render_without_layout rfl rfl, Site.template_eq]
  have hfiles : (helloElsewhere.start 0 options (siteOf helloSite {})).2.files = helloSite := rfl
  rw [hfiles, htext]
  exact eq_ok_of_toOption (by decide +kernel)

/-- The page is in its new directory afterwards, and nothing was printed. -/
theorem render_helloElsewhere :
    let arguments := ["render", "page.html", "--no-layout", "-o", "out/pages/hi.html"]
    let o := run helloSite [] arguments
    (∀ s ∈ arguments, NullFree s) ∧ o.status = 0 ∧ o.out = "" ∧
      helloSite.Receives o.files (.ofText "out/pages/hi.html") (encodeUtf8 "hi".toList) := by
  intro arguments o
  have harguments : ∀ s ∈ arguments, NullFree s := by
    simp only [NullFree]
    decide +kernel
  have hinvocation : Invocation.ofArguments helloSite arguments =
      .ok (.command {} .render ["page.html", "--no-layout", "-o", "out/pages/hi.html"]) := by
    decide +kernel
  obtain ⟨hout, hwritten, -⟩ := ((render_all_or_nothing harguments helloSite []).2 _ _
    hinvocation).2.2.2 _ command_helloElsewhere |>.2 "hi" makesPage_helloElsewhere
  have hstatus : o.status = 0 := by
    obtain ⟨c, -, hfiles, ho⟩ :=
      run_of_page hinvocation command_helloElsewhere makesPage_helloElsewhere
    have hnull := output_nullFree harguments hinvocation command_helloElsewhere rfl
    obtain ⟨-, -, -, hsucceeds⟩ := deliver_file (c := c) hnull "hi" {}
    change o = _ at ho
    rw [ho]
    refine hsucceeds ?_
    rw [hfiles]
    simp only [Tree.makeFolders, Tree.makeFolder, Tree.write, Tree.place_eq]
    decide +kernel
  exact ⟨harguments, hstatus, hout, hwritten hstatus⟩

end CommandLine
end DeferredViews
