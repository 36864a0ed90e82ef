import DeferredViews.Proofs.Complaints
import DeferredViews.Proofs.Delivery
import DeferredViews.Proofs.WorkingDirectory

/-!
# Checking a template and compiling it

The validate command reads a template and goes no further. The engine reads it in the same way and
then generates code, so a template that is found valid can be refused by the engine, but only for
what generating code complains of; and what the command finds fault with, the engine refuses with the
same words. This holds of every language whose form is settled by reading.
-/
namespace DeferredViews.CommandLine

open Files Template View Run

section

variable {files : Tree} {env : List (String × String)} {arguments more : List String}
  {flags : Flags} {template : Path} {source : String} {Parsed Code : Type}

theorem checkForm_apply (l : Language Parsed Code) {c : Console}
    (h : c.site.files.readText template = .ok source) :
    let begun := c.site.note (Log.info Log.rootLogger ("Validating template: " ++ template.text))
    checkForm l template c =
      match l.read false source with
      | .ok _ => (.ok (),
          { site := begun, out := c.out ++ printed ("✅ Template is valid: " ++ template.text ++ "\n") })
      | .error (.syntaxError f) => (.error (.exit failureStatus),
          { site := begun.note (Log.error Log.rootLogger ("Template syntax error: " ++ f.message))
            out := c.out ++ printed ("❌ Template syntax error at line " ++ toString f.line ++ ": " ++
              f.message ++ "\n") })
      | .error f => (.error (.fault f), { c with site := begun }) := by
  intro begun
  have hread : begun.files.readText template = .ok source := h
  rw [checkForm, bind_apply]
  have hnote : rootInfo ("Validating template: " ++ template.text) c =
      (.ok (), { c with site := begun }) := rfl
  rw [hnote]
  dsimp only
  rw [bind_apply, get_apply]
  dsimp only
  rw [hread]
  dsimp only
  cases l.read false source with
  | ok tree => rfl
  | error f => cases f <;> rfl

/-- What comes of reading a template is what the command ends with. -/
theorem outcomeOf_checkForm (l : Language Parsed Code) (flags : Flags) {s : Site}
    (h : s.files.readText template = .ok source) :
    let o := outcomeOf flags (checkForm l template) { site := s }
    o.files = s.files ∧
    match l.read false source with
    | .ok _ => o.status = 0 ∧
        o.out = printed ("✅ Template is valid: " ++ template.text ++ "\n")
    | .error (.syntaxError f) => o.status = failureStatus ∧ o.escaped = none ∧
        Log.error Log.rootLogger ("Template syntax error: " ++ f.message) ∈ o.log ∧
        o.out = printed ("❌ Template syntax error at line " ++ toString f.line ++ ": " ++
          f.message ++ "\n")
    | .error f => o.status = failureStatus ∧ o.escaped = some f := by
  intro o
  have hrun : (checkForm l template).run { site := s } = _ :=
    checkForm_apply l (c := { site := s }) h
  have ho : o = outcomeOf flags (checkForm l template) { site := s } := rfl
  rw [outcomeOf, hrun] at ho
  cases hread : l.read false source with
  | ok tree =>
    rw [hread] at ho
    rw [ho]
    exact ⟨rfl, rfl, String.empty_append⟩
  | error f =>
    rw [hread] at ho
    cases f with
    | syntaxError f =>
      rw [ho]
      exact ⟨rfl, rfl, rfl, List.mem_append_right _ List.mem_cons_self, String.empty_append⟩
    | _ =>
      rw [ho]
      exact ⟨rfl, rfl, rfl⟩

/-- A template that cannot be read is told of in the words in which the engine refuses it, and what is
no fault in its form escapes both. -/
theorem reported_alike (l : Language Parsed Code) (flags : Flags) {s : Site}
    (h : s.files.readText template = .ok source) {g : Fault} (hread : l.read false source = .error g)
    (path : String) :
    let o := outcomeOf flags (checkForm l template) { site := s }
    o.status = failureStatus ∧
      ((∃ f : SyntaxFault,
          refusal path g = .failure (.template path f.message (some (.syntaxError f))) ∧
          o.escaped = none ∧
          Log.error Log.rootLogger ("Template syntax error: " ++ f.message) ∈ o.log ∧
          o.out = printed ("❌ Template syntax error at line " ++ toString f.line ++ ": " ++
            f.message ++ "\n")) ∨
        ∃ f, refusal path g = .fault f ∧ o.escaped = some f) := by
  obtain ⟨-, hends⟩ := outcomeOf_checkForm l flags h
  rw [hread] at hends
  cases g with
  | syntaxError f => exact ⟨hends.1, .inl ⟨f, rfl, hends.2⟩⟩
  | _ => exact ⟨hends.1, .inr ⟨_, rfl, hends.2⟩⟩

theorem run_validate {loaded : Config.Loaded}
    (hinvocation : Invocation.ofArguments files arguments = .ok (.command flags .validate more))
    (hcommand : Command.ofArguments files .validate more = .ok (.validate template))
    (hload : Config.load files env flags.config true = .ok loaded) :
    run files env arguments =
      outcomeOf flags (checkForm .standard template) { site := siteOf files loaded } := by
  rw [run_eq_outcomeOf hinvocation]
  refine outcomeOf_congr flags ?_
  rw [runCommand_loaded hload, hcommand]
  rfl

theorem compileFile_standard (e : Nat) (path source : String) (s : Site) :
    (compileFile e path source s).1 =
      ((Language.standard.compile (s.engine e).autoescape none source).mapError
        (refusal path)).map (⟨e, ·⟩) := by
  rw [congrArg Prod.fst (Mirror.compileFile_apply e path source s), Language.compile_standard]
  cases Template.compile (s.engine e).autoescape none source <;> rfl

/-- A source is refused while it is read, or when its code is generated. -/
theorem compile_of_read (l : Language Parsed Code) (autoescape : Bool) (source : String) :
    l.compile autoescape none source =
      match l.read autoescape source with
      | .ok tree => l.generate autoescape none tree
      | .error f => .error f := by
  rw [Language.compile]
  cases l.read autoescape source <;> rfl

theorem eq_of_refusal_eq {path : String} {g : Fault} {f : SyntaxFault}
    (h : refusal path g = .failure (.template path f.message (some (.syntaxError f)))) :
    g = .syntaxError f := by
  cases g with
  | syntaxError a =>
    obtain ⟨-, rfl⟩ : a.message = f.message ∧ a = f := by simpa [refusal] using h
    rfl
  | _ => cases h

/-- The validate command and the engine agree on the form of templates, in every language in which
reading settles it. The command succeeds exactly if the engine compiles the source or stops only
when it generates the code, and what the engine then refuses is not the form. Where the command
fails, the engine stops for the same fault, and both report the same. -/
theorem validate_agrees_on_form (l : Language Parsed Code) (hstaged : l.Staged)
    {loaded : Config.Loaded}
    (hinvocation : Invocation.ofArguments files arguments = .ok (.command flags .validate more))
    (hcommand : Command.ofArguments files .validate more = .ok (.validate template))
    (hload : Config.load files env flags.config true = .ok loaded)
    (hread : files.readText template = .ok source) (e : Nat) (path : String) (s : Site) :
    let escape := (s.engine e).autoescape
    let o := outcomeOf flags (checkForm l template) { site := siteOf files loaded }
    let compiled := (l.compile escape none source).mapError (refusal path)
    (o.status = 0 ↔ ∀ stop, compiled = .error stop → ∃ tree f, l.read escape source = .ok tree ∧
      l.generate escape none tree = .error f ∧ stop = refusal path f) ∧
    (o.status = 0 → o.out = printed ("✅ Template is valid: " ++ template.text ++ "\n") ∧
      ∀ f : SyntaxFault,
        compiled = .error (.failure (.template path f.message (some (.syntaxError f)))) →
        f.assertion = true) ∧
    (o.status ≠ 0 → o.status = failureStatus ∧
      ((∃ f : SyntaxFault,
          compiled = .error (.failure (.template path f.message (some (.syntaxError f)))) ∧
          o.escaped = none ∧
          Log.error Log.rootLogger ("Template syntax error: " ++ f.message) ∈ o.log ∧
          o.out = printed ("❌ Template syntax error at line " ++ toString f.line ++ ": " ++
            f.message ++ "\n")) ∨
        ∃ f, compiled = .error (.fault f) ∧ o.escaped = some f)) ∧
    ((∀ f, l.read escape source = .error (.syntaxError f) → f.assertion = false) →
      ∀ f : SyntaxFault,
        compiled = .error (.failure (.template path f.message (some (.syntaxError f)))) →
        (o.status = 0 ↔ f.assertion = true)) ∧
    o.files = files ∧
    run files env arguments =
      outcomeOf flags (checkForm .standard template) { site := siteOf files loaded } ∧
    (compileFile e path source s).1 =
      ((Language.standard.compile escape none source).mapError (refusal path)).map (⟨e, ·⟩) := by
  intro escape o compiled
  obtain ⟨hfiles, hends⟩ := outcomeOf_checkForm l flags (s := siteOf files loaded) hread
  have hrun := @run_validate _ env _ _ _ _ _ hinvocation hcommand hload
  have hfile := compileFile_standard e path source s
  have hcompiled : compiled = (match l.read escape source with
      | .ok tree => l.generate escape none tree
      | .error f => .error f).mapError (refusal path) :=
    congrArg (Except.mapError (refusal path)) (compile_of_read l escape source)
  rw [hstaged.read_eq false escape source] at hends
  cases hparsed : l.read escape source with
  | ok tree =>
    rw [hparsed] at hends hcompiled
    obtain ⟨hstatus, hout⟩ := hends
    have hasserts : ∀ f : SyntaxFault,
        compiled = .error (.failure (.template path f.message (some (.syntaxError f)))) →
        f.assertion = true := by
      intro f hf
      obtain ⟨g, hg, hsame⟩ := Language.mapError_eq_error (hcompiled.symm.trans hf)
      obtain rfl := eq_of_refusal_eq hsame
      exact hstaged.assertion_of_generate escape none tree f hg
    refine ⟨⟨fun _ stop hstop => ?_, fun _ => hstatus⟩, fun _ => ⟨hout, hasserts⟩,
      fun hne => absurd hstatus hne,
      fun _ f hf => ⟨fun _ => hasserts f hf, fun _ => hstatus⟩, hfiles, hrun, hfile⟩
    obtain ⟨f, hf, hsame⟩ := Language.mapError_eq_error (hcompiled.symm.trans hstop)
    exact ⟨tree, f, rfl, hf, hsame.symm⟩
  | error g =>
    rw [hparsed] at hends hcompiled
    -- Where reading fails, no code is generated, so the engine's stop is not of that kind.
    have hunread : ¬∀ stop, compiled = .error stop → ∃ tree f,
        (Except.error g : Except Fault Parsed) = .ok tree ∧
          l.generate escape none tree = .error f ∧ stop = refusal path f := by
      intro hstops
      obtain ⟨tree, f, hread, -⟩ := hstops _ hcompiled
      cases hread
    have hrefused : compiled = .error (refusal path g) := hcompiled
    obtain ⟨hstatus, hreport⟩ := reported_alike l flags (s := siteOf files loaded) hread
      ((hstaged.read_eq false escape source).trans hparsed) path
    have hfailed : o.status ≠ 0 := fun hzero => failureStatus_ne_zero (hstatus.symm.trans hzero)
    refine ⟨⟨fun hzero => absurd hzero hfailed, fun hstops => absurd hstops hunread⟩,
      fun hzero => absurd hzero hfailed, fun _ => ⟨hstatus, ?_⟩, fun hformal f hf => ?_,
      hfiles, hrun, hfile⟩
    · rw [hrefused]
      exact hreport.imp (fun ⟨f, hf, hrest⟩ => ⟨f, congrArg _ hf, hrest⟩)
        fun ⟨f, hf, hescaped⟩ => ⟨f, congrArg _ hf, hescaped⟩
    · obtain rfl := eq_of_refusal_eq (Except.error.inj (hrefused.symm.trans hf))
      have hform := hformal f rfl
      exact ⟨fun hzero => absurd hzero hfailed, fun htrue => by simp [hform] at htrue⟩

end

theorem command_page (text : String) :
    Command.ofArguments (.oneFile "page.html" text) .validate ["page.html"] =
      .ok (.validate (.ofText "page.html")) := by
  have hread : readArguments CommandName.validate.options true ["page.html"] =
      .ok { plain := ["page.html"] } := by decide +kernel
  rw [Command.ofArguments, hread]
  show (do return Command.validate (← existingFile (.oneFile "page.html" text) "page.html")) = _
  rw [existingFile_page]
  rfl

/-- A loop that is not closed is found fault with by both. -/
theorem validate_unclosedLoop :
    let source := "\x7b% for x in y %\x7d"
    let files : Tree := .oneFile "page.html" source
    let o := run files [] ["validate", "page.html"]
    let compiled := (compileFile 0 "/site/page.html" source (siteOf files {})).1
    o.status = failureStatus ∧ o.escaped = none ∧ ∃ f, f.assertion = false ∧
      compiled = .error (.failure (.template "/site/page.html" f.message (some (.syntaxError f)))) ∧
      Log.error Log.rootLogger ("Template syntax error: " ++ f.message) ∈ o.log := by
  intro source files o compiled
  have hinvocation := invocation_of_name files (s := "validate") rfl ["page.html"]
  have hload : Config.load files [] none true = .ok {} := Config.load_oneFile (by decide) source []
  have hread : files.readText (.ofText "page.html") = .ok source :=
    (readText_page (by simp [source])).2
  have hfails : (parse source).toOption.isSome = false := by decide +kernel
  obtain ⟨-, -, hrejected, hclass, -, hrun, hfile⟩ := @validate_agrees_on_form _ [] _ _ _ _ _ _ _
    Language.standard Language.standard_staged {} hinvocation (command_page source) hload hread 0
    "/site/page.html" (siteOf files {})
  rw [← hrun] at hrejected hclass
  obtain ⟨g, hparse⟩ : ∃ g, Language.standard.read false source = .error (.syntaxError g) := by
    rw [Language.standard_read]
    cases hparse : parse source with
    | ok body =>
      rw [hparse] at hfails
      cases hfails
    | error g => exact ⟨g, rfl⟩
  have hends : o.status = failureStatus ∧ o.escaped = none := by
    have hform := (outcomeOf_checkForm Language.standard {} (s := siteOf files {}) hread).2
    rw [hparse, ← hrun] at hform
    exact ⟨hform.1, hform.2.1⟩
  obtain ⟨hstatus, hescaped⟩ := hends
  have hfailed : o.status ≠ 0 := fun hzero => failureStatus_ne_zero (hstatus.symm.trans hzero)
  obtain ⟨-, ⟨f, hcompiled, -, hlog, -⟩ | ⟨f, -, hraised⟩⟩ := hrejected hfailed
  · refine ⟨hstatus, hescaped, f, ?_, ?_, hlog⟩
    · have hassertion := hclass (fun _ => Language.standard_read_formal) f hcompiled
      exact Bool.eq_false_iff.mpr fun htrue => hfailed (hassertion.mpr htrue)
    · rw [show compiled = _ from hfile, hcompiled]
      rfl
  · cases hescaped.symm.trans hraised

theorem message_unknownFilter :
    (match compile true none "\x7b\x7b x|nope \x7d\x7d" with
      | .ok _ => ""
      | .error f => f.message) = "No filter named 'nope'." := by
  decide +kernel

theorem compile_unknownFilter :
    ∃ f, compile true none "\x7b\x7b x|nope \x7d\x7d" = .error f ∧
      f.message = "No filter named 'nope'." := by
  have hmessage := message_unknownFilter
  split at hmessage
  · simp at hmessage
  · next f h => exact ⟨f, h, hmessage⟩

/-- A filter that does not exist is no fault in the form: the template is found valid, and the
engine refuses it. -/
theorem validate_unknownFilter :
    let source := "\x7b\x7b x|nope \x7d\x7d"
    let files : Tree := .oneFile "page.html" source
    let o := run files [] ["validate", "page.html"]
    let compiled := (compileFile 0 "/site/page.html" source (siteOf files {})).1
    files.readText (.ofText "page.html") = .ok source ∧ o.status = 0 ∧
      ∃ f, f.message = "No filter named 'nope'." ∧
        compiled =
          .error (.failure (.template "/site/page.html" f.message (some (.syntaxError f)))) := by
  intro source files o compiled
  have hinvocation := invocation_of_name files (s := "validate") rfl ["page.html"]
  have hload : Config.load files [] none true = .ok {} := Config.load_oneFile (by decide) source []
  have hread : files.readText (.ofText "page.html") = .ok source :=
    (readText_page (by simp [source])).2
  have hreads : (parse source).toOption.isSome = true := by decide +kernel
  have hcompiled : compiled = _ :=
    congrArg Prod.fst (Mirror.compileFile_apply 0 "/site/page.html" source (siteOf files {}))
  refine ⟨hread, ?_, ?_⟩
  · have ho := @run_validate _ [] _ _ _ _ _ hinvocation (command_page source) hload
    obtain ⟨-, hform⟩ := outcomeOf_checkForm Language.standard {} (s := siteOf files {}) hread
    rw [← ho, Language.standard_read] at hform
    cases hparse : parse source with
    | ok body =>
      rw [hparse] at hform
      exact hform.1
    | error f =>
      rw [hparse] at hreads
      cases hreads
  · have hescape : ((siteOf files {}).engine 0).autoescape = true := rfl
    rw [hescape] at hcompiled
    obtain ⟨f, hrefused, hmessage⟩ := compile_unknownFilter
    rw [show compile true none source = .error f from hrefused] at hcompiled
    exact ⟨f, hmessage, hcompiled⟩

end DeferredViews.CommandLine
