import DeferredViews.Proofs.Records

/-!
# How much a run tells

Three options of the program settle which records of a run are written, and in which form. However
they are chosen, a run comes to the same status, prints the same, makes the same records and leaves
the same files. What a quiet run writes are the records from the level of warnings on that any other
choice writes.
-/
namespace DeferredViews.CommandLine

open Files View Run

/-- The options that settle how records are written. -/
def logOptions : List String := ["--verbose", "--quiet", "--ci"]

/-- The option of these that an argument spells. -/
def logSpelling : String → Option String
  | "--verbose" | "-v" => some "--verbose"
  | "--quiet" | "-q" => some "--quiet"
  | "--ci" => some "--ci"
  | _ => none

/-- What arguments say about everything else. -/
def Arguments.apartFromLog (a : Arguments) : Arguments :=
  { a with options := a.options.filter fun o => !logOptions.contains o.name }

/-- Two argument lists that differ at most in how records are to be written. -/
def SameButLog (a b : List String) : Prop :=
  (readArguments programOptions false a).map Arguments.apartFromLog =
    (readArguments programOptions false b).map Arguments.apartFromLog

/-- An invocation that leaves open how records are written. -/
def Invocation.apartFromLog : Invocation → Invocation
  | .command flags name more => .command { config := flags.config } name more
  | i => i

/-! ## Reading the arguments -/

theorem logSpelling_cases {f name : String} (h : logSpelling f = some name) :
    (f = "--verbose" ∨ f = "-v") ∧ name = "--verbose" ∨
      (f = "--quiet" ∨ f = "-q") ∧ name = "--quiet" ∨ f = "--ci" ∧ name = "--ci" := by
  unfold logSpelling at h
  split at h <;> simp_all

theorem readOption_short {s : String} (hvalue : splitValue s = (s, none))
    (hshort : isShort s = true) (hstart : s.startsWith "--" = false) (more : List String) :
    readOption programOptions s more = readCluster programOptions more (s.toList.drop 1) := by
  have hlong : findLong programOptions s = none := by
    rw [findLong, if_pos hshort]
  rw [readOption, hvalue]
  simp [hlong, hstart]

theorem readOption_logSpelling {f name : String} (h : logSpelling f = some name)
    (more : List String) : readOption programOptions f more = .ok ([⟨name, none⟩], more) := by
  obtain ⟨rfl | rfl, rfl⟩ | ⟨rfl | rfl, rfl⟩ | ⟨rfl, rfl⟩ := logSpelling_cases h
  · cases more <;> rfl
  · rw [readOption_short rfl rfl (by decide +kernel)]
    rfl
  · cases more <;> rfl
  · rw [readOption_short rfl rfl (by decide +kernel)]
    rfl
  · cases more <;> rfl

theorem readArguments_option {kinds : List OptionKind} {mixed : Bool} {f : String}
    {args more : List String} {given : List Given}
    (hform : f ≠ "--" ∧ f.startsWith "-" = true ∧ f ≠ "-")
    (hread : readOption kinds f args = .ok (given, more)) :
    readArguments kinds mixed (f :: args) =
      (readArguments kinds mixed more).map fun a => { a with options := given ++ a.options } := by
  rw [readArguments, if_neg hform.1, if_pos hform.2]
  split
  · next e he => simp [hread] at he
  · next given' rest he =>
    obtain ⟨rfl, rfl⟩ : given' = given ∧ rest = more := by simpa [hread, eq_comm] using he
    cases readArguments kinds mixed rest <;> rfl

theorem readArguments_logSpelling {f name : String} (h : logSpelling f = some name)
    (more : List String) :
    readArguments programOptions false (f :: more) =
      (readArguments programOptions false more).map fun a =>
        { a with options := ⟨name, none⟩ :: a.options } := by
  refine readArguments_option ?_ (readOption_logSpelling h more)
  obtain ⟨rfl | rfl, -⟩ | ⟨rfl | rfl, -⟩ | ⟨rfl, -⟩ := logSpelling_cases h
  all_goals decide +kernel

theorem readArguments_config (p : String) (more : List String) :
    readArguments programOptions false ("--config" :: p :: more) =
      (readArguments programOptions false more).map fun a =>
        { a with options := ⟨"--config", some p⟩ :: a.options } := by
  have hread : readOption programOptions "--config" (p :: more) =
    .ok ([⟨"--config", some p⟩], more) := rfl
  exact readArguments_option (by decide +kernel) hread

theorem sameButLog_cons {f : String} (h : (logSpelling f).isSome) (more : List String) :
    SameButLog (f :: more) more := by
  obtain ⟨name, hname⟩ := Option.isSome_iff_exists.mp h
  have hlog : name ∈ logOptions := by
    obtain ⟨-, rfl⟩ | ⟨-, rfl⟩ | ⟨-, rfl⟩ := logSpelling_cases hname
    all_goals decide
  rw [SameButLog, readArguments_logSpelling hname]
  cases readArguments programOptions false more with
  | error e => rfl
  | ok a => simp [Except.map, Arguments.apartFromLog, hlog]

/-- The configuration file may be named before, after or between the other options. -/
theorem SameButLog.config {a b : List String} (h : SameButLog a b) (p : String) :
    SameButLog ("--config" :: p :: a) ("--config" :: p :: b) := by
  have hread : ∀ l, (readArguments programOptions false ("--config" :: p :: l)).map
        Arguments.apartFromLog =
      ((readArguments programOptions false l).map Arguments.apartFromLog).map fun a =>
        { a with options := ⟨"--config", some p⟩ :: a.options } := by
    intro l
    rw [readArguments_config]
    cases readArguments programOptions false l with
    | error e => rfl
    | ok a => simp [Except.map, Arguments.apartFromLog, logOptions]
  rw [SameButLog, hread a, hread b, h]

theorem sameButLog_append {fs : List String} (h : ∀ f ∈ fs, (logSpelling f).isSome)
    (more : List String) : SameButLog (fs ++ more) more := by
  induction fs with
  | nil => rfl
  | cons f fs ih =>
    have hf := sameButLog_cons (h f List.mem_cons_self) (fs ++ more)
    exact hf.trans (ih fun g hg => h g (List.mem_cons_of_mem _ hg))

namespace Arguments

variable (a : Arguments)

theorem find?_apartFromLog {p : Given → Bool} (h : ∀ o, p o = true → ¬ o.name ∈ logOptions) :
    a.apartFromLog.options.find? p = a.options.find? p := by
  rw [apartFromLog, List.find?_filter]
  congr 1
  funext o
  cases ho : p o with
  | false => simp
  | true => simp [h o ho]

theorem values_apartFromLog {name : String} (h : ¬ name ∈ logOptions) :
    a.apartFromLog.values name = a.values name := by
  rw [values, values, apartFromLog, List.filter_filter]
  congr 2
  funext o
  by_cases ho : o.name = name
  · simp [ho, h]
  · simp [ho]

/-- What the arguments of the program ask for. -/
def invocation (files : Tree) : Except UsageError Invocation := do
  match a.options.find? fun o => o.name = "--version" ∨ o.name = "--help" with
  | some o => .ok (if o.name = "--version" then .version else .help)
  | none =>
    let flags ← flagsOf files a
    match a.plain with
    | [] => .error .usage
    | name :: more =>
      match CommandName.ofText? name with
      | some name => .ok (.command flags name more)
      | none => .error .usage

theorem invocation_apartFromLog (files : Tree) :
    (a.apartFromLog.invocation files).map Invocation.apartFromLog =
      (a.invocation files).map Invocation.apartFromLog := by
  have hasks : a.apartFromLog.options.find? (fun o => o.name = "--version" ∨ o.name = "--help") =
      a.options.find? fun o => o.name = "--version" ∨ o.name = "--help" := by
    refine a.find?_apartFromLog fun o ho => ?_
    rcases of_decide_eq_true ho with hname | hname <;> simp [hname, logOptions]
  have hconfig : a.apartFromLog.value? "--config" = a.value? "--config" := by
    rw [value?, value?, a.values_apartFromLog (by decide)]
  rw [invocation, invocation, hasks]
  cases a.options.find? fun o => o.name = "--version" ∨ o.name = "--help" with
  | some o => rfl
  | none =>
    rw [flagsOf, flagsOf, hconfig]
    cases (a.value? "--config").mapM (existingFile files) with
    | error e => rfl
    | ok config =>
      have hplain : a.apartFromLog.plain = a.plain := rfl
      simp only [hplain]
      cases a.plain with
      | nil => rfl
      | cons name more =>
        simp only []
        cases CommandName.ofText? name <;> rfl

end Arguments

theorem ofArguments_eq (files : Tree) (arguments : List String) :
    Invocation.ofArguments files arguments =
      (readArguments programOptions false arguments).bind fun a => a.invocation files := rfl

/-- What follows the name of a command is left to it. -/
theorem invocation_of_name (files : Tree) {s : String} {name : CommandName}
    (h : CommandName.ofText? s = some name) (more : List String) :
    Invocation.ofArguments files (s :: more) = .ok (.command {} name more) := by
  have hplain : s ≠ "--" ∧ s.startsWith "-" = false := by
    unfold CommandName.ofText? at h
    split at h
    · decide +kernel
    · decide +kernel
    · decide +kernel
    · decide +kernel
    · cases h
  have hread : readArguments programOptions false (s :: more) = .ok { plain := s :: more } := by
    rw [readArguments, if_neg hplain.1, if_neg (by simp [hplain.2]), if_neg Bool.false_ne_true]
  rw [ofArguments_eq, hread]
  dsimp only [Except.bind, Arguments.invocation]
  rw [h]
  rfl

/-- Argument lists that differ at most in how records are written ask for the same otherwise. -/
theorem SameButLog.ofArguments {a b : List String} (h : SameButLog a b) (files : Tree) :
    (Invocation.ofArguments files a).map Invocation.apartFromLog =
      (Invocation.ofArguments files b).map Invocation.apartFromLog := by
  have hread : ∀ l, (Invocation.ofArguments files l).map Invocation.apartFromLog =
      ((readArguments programOptions false l).map Arguments.apartFromLog).bind fun x =>
        (x.invocation files).map Invocation.apartFromLog := by
    intro l
    rw [ofArguments_eq]
    cases readArguments programOptions false l with
    | error e => rfl
    | ok x => exact (x.invocation_apartFromLog files).symm
  rw [hread a, hread b, h]

/-! ## Running the command -/

/-- An outcome that leaves open how its records are written. -/
def Outcome.apartFromLog (o : Outcome) : Outcome := { o with flags := {} }

/-- Of the flags, a command sees the configuration file alone. -/
theorem runCommand_congr {flags flags' : Flags} (h : flags.config = flags'.config)
    (env : List (String × String)) (name : CommandName) (more : List String) :
    runCommand env flags name more = runCommand env flags' name more := by
  have hload : loadConfiguration env flags = loadConfiguration env flags' := by
    rw [loadConfiguration, loadConfiguration, h]
  rw [runCommand, runCommand, hload]

theorem SameButLog.run {a b : List String} (h : SameButLog a b) (files : Tree)
    (env : List (String × String)) :
    (run files env a).apartFromLog = (run files env b).apartFromLog := by
  have hinvocation := h.ofArguments files
  rw [CommandLine.run, CommandLine.run]
  cases ha : Invocation.ofArguments files a with
  | error e =>
    cases hb : Invocation.ofArguments files b with
    | error e' => rfl
    | ok j => simp [ha, hb, Except.map] at hinvocation
  | ok i =>
    cases hb : Invocation.ofArguments files b with
    | error e' => simp [ha, hb, Except.map] at hinvocation
    | ok j =>
      have hsame : i.apartFromLog = j.apartFromLog := by
        simpa [ha, hb, Except.map] using hinvocation
      -- Only commands are told apart by flags, and two of them here have the same configuration.
      cases i with
      | help => cases j <;> simp_all [Invocation.apartFromLog]
      | version => cases j <;> simp_all [Invocation.apartFromLog]
      | command flags name more =>
        cases j with
        | help => simp [Invocation.apartFromLog] at hsame
        | version => simp [Invocation.apartFromLog] at hsame
        | command flags' name' more' =>
          obtain ⟨hconfig, rfl, rfl⟩ : flags.config = flags'.config ∧ name = name' ∧ more = more' := by
            simpa [Invocation.apartFromLog] using hsame
          show Outcome.apartFromLog (outcomeOf flags (runCommand env flags name more) _) = _
          rw [runCommand_congr hconfig]
          rfl

/-! ## What is written -/

theorem accepts_of_pos {h : Log.Handler} (hlevel : 0 < h.level) (r : Log.Record) :
    h.accepts r = (Log.inTree r.logger && decide (h.level ≤ r.level)) := by
  have hthreshold : h.threshold = h.level := if_neg (by omega)
  rw [Log.Handler.accepts, hthreshold]
  by_cases hr : h.level ≤ r.level
  · have hpos : 0 < r.level := by omega
    simp [hr, hpos]
  · simp [hr]

namespace Outcome

/-- The handler of a run. -/
def handler (o : Outcome) (terminal : Bool) : Log.Handler :=
  .ofFlags o.flags.verbose o.flags.quiet o.flags.ci terminal

theorem handler_level (o : Outcome) (terminal : Bool) :
    0 < (o.handler terminal).level ∧ (o.handler terminal).level ≤ Log.warningLevel := by
  rw [handler, Log.Handler.ofFlags]
  dsimp only
  cases o.flags.quiet <;> cases o.flags.verbose <;> decide

/-- The records that a run writes. -/
def written (o : Outcome) : List Log.Record := o.log.filter (o.handler false).accepts

/-- The lines for records. A record whose message cannot be made has none. -/
def linesFor (o : Outcome) (terminal : Bool) (time : Moment) (rs : List Log.Record) :
    List String :=
  rs.filterMap fun r =>
    ((o.handler terminal).formatter.format time r).toOption.map (· ++ "\n")

/-- What a run writes are the lines for the records that it writes. -/
theorem logText_eq (o : Outcome) (terminal : Bool) (time : Moment) :
    o.logText terminal time = String.join (o.linesFor terminal time o.written) := by
  have haccepts : (o.handler terminal).accepts = (o.handler false).accepts := rfl
  rw [logText, Log.Handler.writeAll, written, linesFor]
  induction o.log with
  | nil => rfl
  | cons r rs ih =>
    rw [List.map_cons, String.join_cons, ih, ← handler, Log.Handler.write, haccepts]
    cases hr : (o.handler false).accepts r with
    | false => simp [hr]
    | true =>
      cases hline : (o.handler terminal).formatter.format time r with
      | error e => simp [hr, hline, Except.toOption]
      | ok line => simp [hr, hline, Except.toOption, String.join_cons]

/-- A quiet outcome writes the warnings and errors that a run with the same records writes. -/
theorem written_of_quiet {o o' : Outcome} (hlog : o.log = o'.log) (hquiet : o.flags.quiet = true) :
    o.written = o'.written.filter fun r => decide (Log.warningLevel ≤ r.level) := by
  rw [written, written, hlog, List.filter_filter]
  refine List.filter_congr fun r _ => ?_
  have hlevel : (o.handler false).level = Log.warningLevel := by
    simp [handler, Log.Handler.ofFlags, hquiet]
  obtain ⟨hpos, hle⟩ := o'.handler_level false
  rw [accepts_of_pos (o.handler_level false).1, accepts_of_pos hpos, hlevel]
  cases Log.inTree r.logger with
  | false => simp
  | true =>
    by_cases hr : Log.warningLevel ≤ r.level
    · have hr' : (o'.handler false).level ≤ r.level := Int.le_trans hle hr
      simp [hr, hr']
    · simp [hr]

end Outcome

/-- An argument list that has a run keep quiet, if it makes sense. -/
def Quiet (arguments : List String) : Prop :=
  ∀ a, readArguments programOptions false arguments = .ok a → a.has "--quiet" = true

theorem quiet_cons {f : String} (h : logSpelling f = some "--quiet") (more : List String) :
    Quiet (f :: more) := by
  intro a ha
  rw [readArguments_logSpelling h] at ha
  cases hmore : readArguments programOptions false more with
  | error e => simp [hmore, Except.map] at ha
  | ok b =>
    obtain rfl : { b with options := ⟨"--quiet", none⟩ :: b.options } = a := by
      simpa [hmore, Except.map] using ha
    simp [Arguments.has]

theorem Arguments.quiet_of_invocation {a : Arguments} {files : Tree} {flags : Flags}
    {name : CommandName} {more : List String}
    (h : a.invocation files = .ok (.command flags name more)) : flags.quiet = a.has "--quiet" := by
  rw [invocation, flagsOf] at h
  cases hasks : a.options.find? fun o => o.name = "--version" ∨ o.name = "--help" with
  | some o =>
    simp only [hasks] at h
    split at h <;> simp at h
  | none =>
    simp only [hasks] at h
    cases hconfig : (a.value? "--config").mapM (existingFile files) with
    | error e => simp [hconfig, bind, Except.bind] at h
    | ok config =>
      simp only [hconfig, bind, Except.bind] at h
      split at h
      · simp at h
      · split at h
        · injection h with h
          injection h with hflags
          rw [← hflags]
        · simp at h

/-- A run of such arguments has no records, or it knows that it is to keep quiet. -/
theorem Quiet.run {arguments : List String} (h : Quiet arguments) (files : Tree)
    (env : List (String × String)) :
    (run files env arguments).log = [] ∨ (run files env arguments).flags.quiet = true := by
  rw [CommandLine.run]
  cases hi : Invocation.ofArguments files arguments with
  | error e => exact .inl rfl
  | ok i =>
    cases i with
    | help => exact .inl rfl
    | version => exact .inl rfl
    | command flags name more =>
      refine .inr ?_
      rw [ofArguments_eq] at hi
      cases ha : readArguments programOptions false arguments with
      | error e => simp [ha, Except.bind] at hi
      | ok a =>
        have hquiet := Arguments.quiet_of_invocation (by simpa [ha, Except.bind] using hi)
        exact hquiet.trans (h a ha)

/-- The options on records settle nothing else. Whichever of them two argument lists that agree
otherwise hold, the runs come to the same end, print the same, leave the same files and make the
same records, of which each writes lines for some; and one that is to keep quiet writes those of the
other one's that are warnings or worse. Nor do records act on what comes after them: with any others
made before, a command comes to the same and makes the same ones. Such options may stand before or
after the one that names the configuration file, in any number. -/
theorem log_options_settle_records_only :
    (∀ (files : Tree) (env : List (String × String)) (a b : List String), SameButLog a b →
      let x := run files env a
      let y := run files env b
      x.status = y.status ∧ x.escaped = y.escaped ∧ x.out = y.out ∧ x.files = y.files ∧
        x.log = y.log ∧
        (∀ terminal time, x.logText terminal time = String.join (x.linesFor terminal time x.written)) ∧
        (Quiet a → x.written = y.written.filter fun r => decide (Log.warningLevel ≤ r.level))) ∧
      (∀ (l : List Log.Record) (flags : Flags) (env : List (String × String)) (name : CommandName)
        (more : List String) (c : Console),
        let o := outcomeOf flags (runCommand env flags name more) c
        outcomeOf flags (runCommand env flags name more) (c.withRecords l) =
          { o with log := l ++ o.log }) ∧
      (∀ fs gs more : List String, (∀ f ∈ fs ++ gs, (logSpelling f).isSome) →
        SameButLog (fs ++ more) (gs ++ more)) ∧
      (∀ (p : String) (a b : List String), SameButLog a b →
        SameButLog ("--config" :: p :: a) ("--config" :: p :: b)) ∧
      ∀ f more, logSpelling f = some "--quiet" → Quiet (f :: more) := by
  refine ⟨fun files env a b h => ?_, outcomeOf_withRecords, fun fs gs more h => ?_,
    fun p a b h => h.config p, fun f more h => quiet_cons h more⟩
  · intro x y
    obtain ⟨hstatus, hout, hlog, hescaped, hfiles⟩ : x.status = y.status ∧ x.out = y.out ∧
        x.log = y.log ∧ x.escaped = y.escaped ∧ x.files = y.files := by
      simpa [Outcome.apartFromLog] using h.run files env
    refine ⟨hstatus, hescaped, hout, hfiles, hlog, x.logText_eq, fun hquiet => ?_⟩
    rcases hquiet.run files env with hnone | hflag
    · have hx : x.log = [] := hnone
      have hy : y.log = [] := hlog.symm.trans hx
      simp [Outcome.written, hx, hy]
    · exact Outcome.written_of_quiet hlog hflag
  · have hfs := sameButLog_append (fun f hf => h f (List.mem_append_left gs hf)) more
    have hgs := sameButLog_append (fun g hg => h g (List.mem_append_right fs hg)) more
    exact hfs.trans hgs.symm

/-- A directory with a template whose loop is not closed. -/
def unclosedLoop : Tree :=
  { here := ["site"]
    entries :=
      [(["site"], .folder),
        (["site", "page.html"], .file (Text.encodeUtf8 "{% for x in y %}".toList))] }

/-- Checking that template quietly, or with everything told and for machines. -/
theorem validate_quietly_or_not :
    let quiet := ["--quiet", "validate", "page.html"]
    let told := ["--ci", "-v", "validate", "page.html"]
    SameButLog quiet told ∧ Quiet quiet ∧
      (run unclosedLoop [] quiet).status = (run unclosedLoop [] told).status ∧
      (run unclosedLoop [] quiet).out = (run unclosedLoop [] told).out ∧
      (run unclosedLoop [] quiet).written =
        (run unclosedLoop [] told).written.filter fun r => decide (Log.warningLevel ≤ r.level) := by
  intro quiet told
  obtain ⟨hruns, -, hfront, -, hquiet⟩ := log_options_settle_records_only
  have hsame : SameButLog quiet told :=
    hfront ["--quiet"] ["--ci", "-v"] ["validate", "page.html"] (by decide)
  have hq : Quiet quiet := hquiet "--quiet" ["validate", "page.html"] rfl
  obtain ⟨hstatus, -, hout, -, -, -, hwritten⟩ := hruns unclosedLoop [] quiet told hsame
  exact ⟨hsame, hq, hstatus, hout, hwritten hq⟩

end DeferredViews.CommandLine
