import DeferredViews.Proofs.Delivery
import DeferredViews.Proofs.Scans
import DeferredViews.Proofs.WorkingDirectory

/-!
# Two routes for a page

A page that a render command comes to is printed, or written to the file that the command line names.
The file holds the page as it is. What is printed is the page without the sequences that steer a
terminal, so the two agree exactly on the pages that hold none of these.
-/
namespace DeferredViews.CommandLine

open Files Text View Run

/-! ## Sequences that steer a terminal -/

/-- A character of the parameters in a steering sequence. -/
def isParameter (c : Char) : Bool := c = ';' || c = '?' || ('0' ≤ c && c ≤ '9')

/-- A sequence that steers a terminal: its opening, parameters, and a letter. -/
def IsSteering (w : List Char) : Prop :=
  ∃ parameters letter, (∀ c ∈ parameters, isParameter c = true) ∧ letter.isAlpha = true ∧
    w = '\x1b' :: '[' :: (parameters ++ [letter])

theorem isParameter_of_isAlpha {c : Char} (h : c.isAlpha = true) : isParameter c = false := by
  rw [Bool.eq_false_iff]
  intro hp
  simp only [isParameter, Bool.or_eq_true, decide_eq_true_eq, Bool.and_eq_true, Char.le_def] at hp
  rcases hp with (rfl | rfl) | hdigit
  · revert h
    decide
  · revert h
    decide
  · have halpha : c.isAlpha = (decide ('A'.val ≤ c.val ∧ c.val ≤ 'Z'.val) ||
        (decide ('a'.val ≤ c.val) && decide (c.val ≤ 'z'.val))) := rfl
    simp only [halpha, Bool.or_eq_true, Bool.and_eq_true, decide_eq_true_eq,
      UInt32.le_iff_toNat_le] at h hdigit
    have hnine : '9'.val.toNat = 57 := rfl
    have hupper : 'A'.val.toNat = 65 := rfl
    have hlower : 'a'.val.toNat = 97 := rfl
    omega

theorem dropSteering?_eq (s : List Char) :
    dropSteering? s = match s.dropWhile isParameter with
      | c :: rest => if c.isAlpha then some rest else none
      | [] => none :=
  rfl

theorem dropSteering?_eq_some {s rest : List Char} :
    dropSteering? s = some rest ↔
      ∃ parameters letter, (∀ c ∈ parameters, isParameter c = true) ∧ letter.isAlpha = true ∧
        s = parameters ++ letter :: rest := by
  rw [dropSteering?_eq]
  constructor
  · intro h
    split at h
    · next c after hafter =>
      split at h
      · next hletter =>
        obtain rfl := Option.some.inj h
        refine ⟨s.takeWhile isParameter, c, ?_, hletter, ?_⟩
        · exact List.all_eq_true.mp List.all_takeWhile
        · rw [← hafter, List.takeWhile_append_dropWhile]
      · cases h
    · cases h
  · rintro ⟨parameters, letter, hparameters, hletter, rfl⟩
    rw [List.dropWhile_append_of_pos hparameters,
      List.dropWhile_cons_of_neg (by simp [isParameter_of_isAlpha hletter])]
    exact if_pos hletter

theorem prefixFree_isSteering : PrefixFree IsSteering := by
  refine ⟨?_, ?_⟩
  · rintro ⟨parameters, letter, -, -, h⟩
    cases h
  · rintro _ _ ⟨ps, c, hps, hc, rfl⟩ ⟨qs, d, hqs, hd, rfl⟩ ⟨rest, h⟩
    -- Both are read from the same text, and reading has one answer.
    have htext : ps ++ c :: rest = qs ++ d :: [] := by simpa using h
    have hread := dropSteering?_eq_some.mpr ⟨ps, c, hps, hc, htext.symm⟩
    rw [dropSteering?_eq_some.mpr ⟨qs, d, hqs, hd, rfl⟩] at hread
    obtain rfl := Option.some.inj hread
    rw [htext]

/-- What is printed is what a scan for steering sequences leaves. -/
theorem exists_scan_withoutSteering {fuel : Nat} {s : List Char} (h : s.length < fuel) :
    ∃ fs, Scan IsSteering s fs ∧ withoutSteering fuel s = fs.flatMap Fragment.rest := by
  induction fuel, s using withoutSteering.induct with
  | case1 s => exact absurd h (Nat.not_lt_zero _)
  | case2 fuel rest after hdrop ih =>
    obtain ⟨parameters, letter, hparameters, hletter, rfl⟩ := dropSteering?_eq_some.mp hdrop
    obtain ⟨fs, hscan, heq⟩ := ih (by simp at h; omega)
    have htext : '\x1b' :: '[' :: (parameters ++ letter :: after) =
        '\x1b' :: '[' :: (parameters ++ [letter]) ++ after := by simp
    have hword : IsSteering ('\x1b' :: '[' :: (parameters ++ [letter])) :=
      ⟨parameters, letter, hparameters, hletter, rfl⟩
    refine ⟨.word ('\x1b' :: '[' :: (parameters ++ [letter])) :: fs, ?_, ?_⟩
    · rw [htext]
      exact .found hword hscan
    · rw [withoutSteering, hdrop]
      exact heq
  | case3 fuel rest hdrop ih =>
    obtain ⟨fs, hscan, heq⟩ := ih (by simp at h ⊢; omega)
    refine ⟨.single '\x1b' :: fs, .passed ?_ hscan, ?_⟩
    · rintro w ⟨parameters, letter, hparameters, hletter, rfl⟩ ⟨after, hw⟩
      have hrest : rest = parameters ++ letter :: after := by simpa using hw.symm
      cases hdrop.symm.trans (dropSteering?_eq_some.mpr ⟨_, _, hparameters, hletter, hrest⟩)
    · rw [withoutSteering, hdrop]
      exact congrArg ('\x1b' :: ·) heq
  | case4 fuel c rest hno ih =>
    obtain ⟨fs, hscan, heq⟩ := ih (by simp at h; omega)
    refine ⟨.single c :: fs, .passed ?_ hscan, ?_⟩
    · rintro w ⟨parameters, letter, -, -, rfl⟩ ⟨after, hw⟩
      obtain ⟨rfl, hrest⟩ := List.cons.inj hw
      exact hno _ rfl hrest.symm
    · rw [withoutSteering]
      · exact congrArg (c :: ·) heq
      · exact hno
  | case5 n hn =>
    refine ⟨[], .nil, ?_⟩
    cases n <;> rfl

theorem exists_scan_printed (html : String) :
    ∃ fs, Scan IsSteering html.toList fs ∧ printed html = String.ofList (fs.flatMap Fragment.rest) := by
  have hfuel : html.toList.length < html.length + 1 := by
    rw [String.length_toList]
    exact Nat.lt_succ_self _
  obtain ⟨fs, hscan, heq⟩ := exists_scan_withoutSteering hfuel
  exact ⟨fs, hscan, congrArg String.ofList heq⟩

/-- A text is printed as it is exactly if no steering sequence occurs in it. -/
theorem printed_eq_iff (html : String) :
    printed html = html ↔ ∀ w, IsSteering w → ¬ w <:+: html.toList := by
  obtain ⟨fs, hscan, heq⟩ := exists_scan_printed html
  rw [heq, ← hscan.rest_eq_iff prefixFree_isSteering]
  constructor
  · intro h
    have hlist := congrArg String.toList h
    rwa [String.toList_ofList] at hlist
  · intro h
    rw [h, String.ofList_toList]

/-! ## Naming a file for the page -/

section

variable {files : Tree} {a : Arguments} {r : Rendering} {o : Given} {name : String}

theorem values_cons_of_ne (h : (o.name == name) = false) :
    ({ a with options := o :: a.options } : Arguments).values name = a.values name := by
  simp [Arguments.values, h]

theorem values_cons_self {value : String} :
    ({ a with options := ⟨name, some value⟩ :: a.options } : Arguments).values name =
      value :: a.values name := by
  simp [Arguments.values]

theorem has_cons_of_ne (h : (o.name == name) = false) :
    ({ a with options := o :: a.options } : Arguments).has name = a.has name := by
  simp [Arguments.has, h]

/-- To name a file for the page, where none was named, changes nothing else. -/
theorem renderingOf_cons_output {template : String} (h : renderingOf files a template = .ok r)
    (houtput : r.output = none) (file : String) :
    renderingOf files { a with options := ⟨"--output", some file⟩ :: a.options } template =
      .ok { r with output := some (.ofText file) } := by
  obtain ⟨path, hpath, h₁⟩ := ok_of_bind h
  obtain ⟨views, hviews, h₂⟩ := ok_of_bind h₁
  obtain ⟨locals, hlocals, h₃⟩ := ok_of_bind h₂
  obtain ⟨partials, hpartials, h₄⟩ := ok_of_bind h₃
  cases h₄
  have hnone : a.values "--output" = [] :=
    List.getLast?_eq_none_iff.mp (Option.map_eq_none_iff.mp houtput)
  have hvalues : ∀ name, ("--output" == name) = false →
      ({ a with options := ⟨"--output", some file⟩ :: a.options } : Arguments).values name =
        a.values name := fun name hne => values_cons_of_ne hne
  have hhas : ∀ name, ("--output" == name) = false →
      ({ a with options := ⟨"--output", some file⟩ :: a.options } : Arguments).has name =
        a.has name := fun name hne => has_cons_of_ne hne
  have hfile : ({ a with options := ⟨"--output", some file⟩ :: a.options } : Arguments).value?
      "--output" = some file := by
    simp [Arguments.value?, values_cons_self, hnone]
  rw [renderingOf, hpath, hfile, hhas "--no-layout" rfl, hhas "--cache" rfl]
  simp only [Arguments.value?] at hlocals hpartials ⊢
  rw [hvalues "--views" rfl, hvalues "--layout" rfl, hvalues "--locals" rfl,
    hvalues "--partials" rfl, hviews, hlocals, hpartials]
  rfl

/-- A file for the page that is named first counts if no other one is named. -/
theorem command_with_output {more : List String}
    (h : Command.ofArguments files .render more = .ok (.render r)) (houtput : r.output = none)
    (file : String) :
    Command.ofArguments files .render ("--output" :: file :: more) =
      .ok (.render { r with output := some (.ofText file) }) := by
  obtain ⟨a, template, ha, hhelp, hplain, hr⟩ := command_eq_render_iff.mp h
  refine command_eq_render_iff.mpr ⟨_, template, ?_, (has_cons_of_ne rfl).trans hhelp, hplain,
    renderingOf_cons_output hr houtput file⟩
  rw [readArguments_option (by decide +kernel) rfl, ha]
  rfl

end

/-! ## One page by both routes -/

section

variable {files : Tree} {env : List (String × String)} {flags : Flags} {r : Rendering}

/-- Where a page goes has no part in making it. -/
theorem MakesPage.elsewhere {html : String} (h : MakesPage files env flags r html)
    (output : Option Path) : MakesPage files env flags { r with output } html := by
  obtain ⟨options, s, ⟨hload, hlocals, hoptions, hdirectory, hregister⟩, hpage⟩ := h
  exact ⟨options, s, .intro hload hlocals hoptions hdirectory hregister, hpage⟩

theorem MakesPage.unique {html html' : String} (h : MakesPage files env flags r html)
    (h' : MakesPage files env flags r html') : html = html' := by
  obtain ⟨options, s, ⟨hload, hlocals, hoptions, hdirectory, hregister⟩, hpage⟩ := h
  obtain ⟨options', s', ⟨hload', hlocals', hoptions', hdirectory', hregister'⟩, hpage'⟩ := h'
  cases hload.symm.trans hload'
  cases hlocals.symm.trans hlocals'
  cases hoptions.symm.trans hoptions'
  cases hdirectory.symm.trans hdirectory'
  cases hregister.symm.trans hregister'
  exact Except.ok.inj (hpage.symm.trans hpage')

/-- A command that succeeds has come to a page. -/
theorem makesPage_of_status {arguments more : List String}
    (hinvocation : Invocation.ofArguments files arguments = .ok (.command flags .render more))
    (hcommand : Command.ofArguments files .render more = .ok (.render r))
    (hstatus : (run files env arguments).status = 0) : ∃ html, MakesPage files env flags r html := by
  refine (makesPage_or_meets files env flags r).resolve_right ?_
  rintro ⟨x, hx⟩
  obtain ⟨log, ho⟩ := run_of_meets hinvocation hcommand hx
  exact (x.leavesNothing flags log files).failed (ho ▸ hstatus)

/-- What becomes of the page of a command that succeeds. It is printed without the sequences in it
that steer a terminal, as a scan from left to right finds them. If the command is given again with a
file for the page, in whatever way this is spelled, nothing is printed, and the file holds the page
as it is, provided that it can be written. So the two texts are the same exactly if no steering
sequence occurs in the page. -/
theorem page_by_both_routes {arguments more : List String} {file : String} (hfile : NullFree file)
    (hinvocation : Invocation.ofArguments files arguments = .ok (.command flags .render more))
    (hcommand : Command.ofArguments files .render more = .ok (.render r))
    (houtput : r.output = none) (hstatus : (run files env arguments).status = 0) :
    let p := Path.ofText file
    let o := run files env arguments
    ∃ html fs, MakesPage files env flags r html ∧ Scan IsSteering html.toList fs ∧
      o.out = String.ofList (fs.flatMap Fragment.rest) ∧ o.files = files ∧
      Command.ofArguments files .render ("--output" :: file :: more) =
        .ok (.render { r with output := some p }) ∧
      ∀ added more',
        Invocation.ofArguments files added = .ok (.command flags .render more') →
        Command.ofArguments files .render more' = .ok (.render { r with output := some p }) →
        let o' := run files env added
        o'.out = "" ∧
          ((files.makeFolders (p.parent.names.length + 1) p.parent >>= fun t =>
            t.write p (encodeUtf8 html.toList)).toOption.isSome = true → o'.status = 0) ∧
          (o'.status = 0 → files.Receives o'.files p (encodeUtf8 html.toList) ∧
            (o'.files.read p = .ok (encodeUtf8 o.out.toList) ↔
              ∀ w, IsSteering w → ¬ w <:+: html.toList)) := by
  intro p o
  obtain ⟨html, hpage⟩ := makesPage_of_status hinvocation hcommand hstatus
  obtain ⟨fs, hscan, hprinted⟩ := exists_scan_printed html
  obtain ⟨c, hout, hfiles, ho⟩ := run_of_page hinvocation hcommand hpage
  rw [houtput] at ho
  change o = _ at ho
  have hpath : o.out = printed html := by
    rw [ho]
    show c.out ++ printed html = printed html
    rw [hout, String.empty_append]
  refine ⟨html, fs, hpage, hscan, hpath.trans hprinted, ?_, command_with_output hcommand houtput
    file, fun added more' hadded hmore' => ?_⟩
  · rw [ho]
    exact hfiles
  · intro o'
    obtain ⟨c', hout', hfiles', ho'⟩ := run_of_page hadded hmore' (hpage.elsewhere (some p))
    subst hfiles'
    change o' = _ at ho'
    obtain ⟨hnothing, hwritten, -, hsucceeds⟩ :=
      deliver_file (c := c') (Path.nullFree_ofText hfile) html flags
    rw [ho']
    refine ⟨hnothing.trans hout', hsucceeds, fun hzero => ⟨hwritten hzero, ?_⟩⟩
    rw [(hwritten hzero).holds, ← printed_eq_iff, hpath, Except.ok.injEq,
      encodeUtf8_injective.eq_iff, String.toList_inj]
    exact eq_comm

end

/-- A directory with a page that is to be shown in red. -/
abbrev redSite : Tree := .oneFile "page.html" "\x1b[31mred"

/-- To render that page without a layout. -/
def redPage : Rendering :=
  { template := .ofText "page.html", noLayout := true }

theorem command_redPage :
    Command.ofArguments redSite .render ["page.html", "--no-layout"] = .ok (.render redPage) := by
  have hread : readArguments CommandName.render.options true ["page.html", "--no-layout"] =
      .ok { options := [⟨"--no-layout", none⟩], plain := ["page.html"] } := by decide +kernel
  rw [Command.ofArguments, hread]
  show (do return Command.render (← renderingOf redSite _ "page.html")) = _
  rw [renderingOf, existingFile_page]
  rfl

theorem invocation_redPage :
    Invocation.ofArguments redSite ["render", "page.html", "--no-layout"] =
      .ok (.command {} .render ["page.html", "--no-layout"]) :=
  invocation_of_name redSite rfl _

theorem makesPage_redPage : MakesPage redSite [] {} redPage "\x1b[31mred" := by
  let options := (renderOptions {} [] redPage).toOption.getD []
  let site := (redPage.start 0 options (siteOf redSite {})).2
  have hready : Ready redSite [] {} redPage options (siteOf redSite {}) :=
    .intro (Config.load_oneFile (by decide) _ []) rfl rfl rfl rfl
  have htext : templateText redSite "/site/page.html" = .ok "\x1b[31mred" := by
    rw [templateText, if_neg (by simp), (readText_page (by simp)).1]
  have hpath : (redPage.start 0 options (siteOf redSite {})).1 =
      ⟨0, "/site/page.html", 0⟩ := by decide +kernel
  refine ⟨options, _, hready, ?_⟩
  rw [hpath, render_without_layout rfl rfl, Site.template_eq]
  have hfiles : (redPage.start 0 options (siteOf redSite {})).2.files = redSite := rfl
  rw [hfiles, htext]
  exact eq_ok_of_toOption (by decide +kernel)

theorem run_redPage :
    let o := run redSite [] ["render", "page.html", "--no-layout"]
    o.status = 0 ∧ o.out = "red" := by
  obtain ⟨c, hout, -, ho⟩ := run_of_page invocation_redPage command_redPage makesPage_redPage
  intro o
  change o = _ at ho
  rw [ho]
  refine ⟨rfl, ?_⟩
  show c.out ++ printed "\x1b[31mred" = "red"
  rw [hout, String.empty_append]
  rfl

/-- The page is made again with a file named for it, and what is printed is another text. -/
theorem redPage_by_both_routes :
    let o := run redSite [] ["render", "page.html", "--no-layout"]
    let o' := run redSite [] ["render", "page.html", "--no-layout", "-o", "out/red.html"]
    NullFree "out/red.html" ∧ o.status = 0 ∧ o'.out = "" ∧ o'.status = 0 ∧
      redSite.Receives o'.files (.ofText "out/red.html") (encodeUtf8 "\x1b[31mred".toList) ∧
      o'.files.read (.ofText "out/red.html") ≠ .ok (encodeUtf8 o.out.toList) := by
  intro o o'
  have hnull : NullFree "out/red.html" := by simp [NullFree]
  obtain ⟨html, fs, hpage, -, -, -, -, hroute⟩ :=
    page_by_both_routes hnull invocation_redPage command_redPage rfl run_redPage.1
  obtain rfl := hpage.unique makesPage_redPage
  have hcommand : Command.ofArguments redSite .render
      ["page.html", "--no-layout", "-o", "out/red.html"] =
        .ok (.render { redPage with output := some (.ofText "out/red.html") }) := by
    simp only [Command.ofArguments, renderingOf, existingFile, entryAt, Tree.find?, Tree.place_eq]
    decide +kernel
  obtain ⟨hnothing, hsucceeds, hwritten⟩ := hroute
    ["render", "page.html", "--no-layout", "-o", "out/red.html"] _
    (invocation_of_name redSite rfl _) hcommand
  have hstatus : o'.status = 0 := by
    refine hsucceeds ?_
    simp only [Tree.makeFolders, Tree.makeFolder, Tree.write, Tree.place_eq]
    decide +kernel
  obtain ⟨hreceives, hsame⟩ := hwritten hstatus
  refine ⟨hnull, run_redPage.1, hnothing, hstatus, hreceives, fun hout => ?_⟩
  have hsteering : IsSteering "\x1b[31m".toList := ⟨['3', '1'], 'm', by simp [isParameter], rfl, rfl⟩
  exact hsame.mp hout "\x1b[31m".toList hsteering ⟨[], "red".toList, rfl⟩

/-- Both commands succeed, but the text that is printed is not the one that is written. -/
theorem routes_differ_on_redPage :
    let o := run redSite [] ["render", "page.html", "--no-layout"]
    let o' := run redSite [] ["render", "--output", "out.html", "page.html", "--no-layout"]
    o.status = 0 ∧ o'.status = 0 ∧ o.out = "red" ∧
      o'.files.read (.ofText "out.html") = .ok (encodeUtf8 "\x1b[31mred".toList) ∧
      o'.files.read (.ofText "out.html") ≠ .ok (encodeUtf8 o.out.toList) := by
  intro o o'
  obtain ⟨hstatus, hout⟩ := run_redPage
  change o.status = 0 at hstatus
  change o.out = "red" at hout
  have hnull : NullFree "out.html" := by simp [NullFree]
  have hinvocation : Invocation.ofArguments redSite
      ["render", "--output", "out.html", "page.html", "--no-layout"] =
        .ok (.command {} .render ["--output", "out.html", "page.html", "--no-layout"]) :=
    invocation_of_name redSite rfl _
  obtain ⟨c, -, hfiles, ho⟩ := run_of_page hinvocation
    (command_with_output command_redPage rfl "out.html")
    (makesPage_redPage.elsewhere (some (.ofText "out.html")))
  change o' = _ at ho
  obtain ⟨-, hwritten, -, hsucceeds⟩ :=
    deliver_file (c := c) (Path.nullFree_ofText hnull) "\x1b[31mred" {}
  have hstatus' : o'.status = 0 := by
    rw [ho]
    refine hsucceeds ?_
    rw [hfiles]
    simp only [Tree.makeFolders, Tree.makeFolder, Tree.write, Tree.place_eq]
    decide +kernel
  have hread : o'.files.read (.ofText "out.html") = .ok (encodeUtf8 "\x1b[31mred".toList) := by
    rw [ho] at hstatus' ⊢
    exact (hwritten hstatus').holds
  refine ⟨hstatus, hstatus', hout, hread, ?_⟩
  rw [hread, hout]
  intro hsame
  have htext := String.toList_injective (encodeUtf8_injective (Except.ok.inj hsame))
  simp at htext

end DeferredViews.CommandLine
