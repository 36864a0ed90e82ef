import DeferredViews.Proofs.Told

/-!
# How a render can end

With well-formed options and a well-formed timeout a render ends with a page, with the failure of a
file, a template or a helper, or in one of the three ways that no failure stands for: a file that it
reads is no text, its path holds a null character, or a helper cancels the render. A page or a
layout asked for that is missing is the failure to read it.
-/
namespace DeferredViews.Files

theorem mem_intercalate {α : Type} {sep : List α} {ls : List (List α)} {a : α}
    (h : a ∈ sep.intercalate ls) : a ∈ sep ∨ ∃ l ∈ ls, a ∈ l := by
  induction ls with
  | nil => cases h
  | cons l more ih =>
    cases more with
    | nil =>
      rw [List.intercalate_singleton] at h
      exact .inr ⟨l, List.mem_cons_self, h⟩
    | cons m more =>
      rw [List.intercalate_cons_cons, List.mem_append, List.mem_append] at h
      rcases h with (h | h) | h
      · exact .inr ⟨l, List.mem_cons_self, h⟩
      · exact .inl h
      · rcases ih h with h | ⟨l', hl', h⟩
        · exact .inl h
        · exact .inr ⟨l', List.mem_cons_of_mem _ hl', h⟩

/-- No path to a file holds a null character. -/
theorem no_null_of_isFile {files : Tree} {p : Path} (h : files.isFile p = true) :
    '\x00' ∉ p.text.toList := by
  have hnames : ∀ name ∈ p.names, '\x00' ∉ name.toList := by
    rw [Tree.isFile, Tree.find?, Tree.place_eq] at h
    split at h
    · next hfound =>
      split at hfound
      · next hplace =>
        split at hplace
        · cases hplace
        · next hnull => simpa using hnull
      · cases hfound
    · cases h
  rw [Path.text]
  split
  · decide
  · rw [String.toList_append, String.toList_intercalate, List.mem_append]
    rintro (hroot | hrest)
    · revert hroot
      cases p.root <;> decide
    · rcases mem_intercalate hrest with hsep | ⟨l, hl, hnull⟩
      · revert hsep
        decide
      · obtain ⟨name, hname, rfl⟩ := List.mem_map.mp hl
        exact hnames name hname hnull

end DeferredViews.Files

namespace DeferredViews.View

open Deferred Files

/-- A value that is looked into: a mapping, or one that counts as false. -/
def MayBeMapping (v : Value) : Prop := v.truthy = false ∨ ∃ entries, v = .dict entries

/-- View roots: none, a path, or several. -/
def AreRoots (v : Value) : Prop :=
  v.truthy = false ∨ (∃ s, v = .str s ∨ v = .markup s) ∨
    ∃ items, (v = .list items ∨ v = .tuple items) ∧ ∀ item ∈ items, item.text?.isSome = true

/-- Options whose settings, view options and views are of the right kinds. -/
structure WellTyped (options : Locals) : Prop where
  settings : ∀ v, options.get? "settings" = some v → MayBeMapping v
  viewOptions : ∀ entries v, options.get? "settings" = some (.dict entries) →
    Value.find? entries (.str "view options") = some v → MayBeMapping v
  views : ∀ entries v, options.get? "settings" = some (.dict entries) →
    Value.find? entries (.str "views") = some v → AreRoots v

theorem orEmpty_mapping {v : Option Value} (h : ∀ x, v = some x → MayBeMapping x) :
    orEmpty v = .dict [] ∨ ∃ entries, v = some (.dict entries) ∧ orEmpty v = .dict entries := by
  cases v with
  | none => exact .inl rfl
  | some x =>
    rw [orEmpty]
    split
    · next htrue =>
      rcases h x rfl with hfalse | ⟨entries, rfl⟩
      · rw [hfalse] at htrue
        cases htrue
      · exact .inr ⟨entries, rfl, rfl⟩
    · exact .inl rfl

theorem lookup?_orEmpty {v : Option Value} (h : ∀ x, v = some x → MayBeMapping x) (key : String) :
    ∃ found, lookup? (orEmpty v) key = .ok found ∧
      ∀ x, found = some x → ∃ entries, v = some (.dict entries) ∧
        Value.find? entries (.str key) = some x := by
  rcases orEmpty_mapping h with hempty | ⟨entries, hv, hdict⟩
  · rw [hempty]
    exact ⟨none, rfl, nofun⟩
  · rw [hdict]
    exact ⟨_, rfl, fun x hx => ⟨entries, hv, hx⟩⟩

theorem mapM_pathOf_ok {items : List Value} (h : ∀ item ∈ items, item.text?.isSome = true) :
    ∃ paths, items.mapM pathOf = .ok paths := by
  induction items with
  | nil => exact ⟨[], rfl⟩
  | cons item more ih =>
    obtain ⟨paths, hmore⟩ := ih fun x hx => h x (List.mem_cons_of_mem _ hx)
    obtain ⟨s, hs⟩ := Option.isSome_iff_exists.mp (h item List.mem_cons_self)
    have hitem : pathOf item = .ok (.ofText s) := by
      rw [pathOf, hs]
    rw [List.mapM_cons, hitem, hmore]
    exact ⟨_, rfl⟩

theorem viewRoots_ok {v : Value} (h : AreRoots v) : ∃ roots, viewRoots v = .ok roots := by
  cases htruthy : v.truthy with
  | false =>
    refine ⟨[], ?_⟩
    unfold viewRoots
    rw [htruthy]
    rfl
  | true =>
    rcases h with hfalse | ⟨s, rfl | rfl⟩ | ⟨items, rfl | rfl, htexts⟩
    · rw [htruthy] at hfalse
      cases hfalse
    all_goals rw [viewRoots, htruthy]
    · exact ⟨_, rfl⟩
    · exact ⟨_, rfl⟩
    · exact mapM_pathOf_ok htexts
    · exact mapM_pathOf_ok htexts

namespace WellTyped

variable {options : Locals}

theorem ofOptions_ok (h : WellTyped options) : ∃ d, LayoutDecision.ofOptions options = .ok d := by
  rw [LayoutDecision.ofOptions]
  cases options.get? "layout" with
  | some v => exact ⟨_, rfl⟩
  | none =>
    obtain ⟨viewOptions, hviews, hentries⟩ := lookup?_orEmpty h.settings "view options"
    have hmapping : ∀ x, viewOptions = some x → MayBeMapping x := by
      intro x hx
      obtain ⟨entries, hsettings, hfind⟩ := hentries x hx
      exact h.viewOptions entries x hsettings hfind
    obtain ⟨layout, hlayout, -⟩ := lookup?_orEmpty hmapping "layout"
    dsimp only
    rw [hviews]
    dsimp only [bind, Except.bind]
    rw [hlayout]
    cases layout <;> exact ⟨_, rfl⟩

theorem rootsOf_ok (h : WellTyped options) : ∃ roots, rootsOf options = .ok roots := by
  obtain ⟨views, hviews, hentries⟩ := lookup?_orEmpty h.settings "views"
  rw [rootsOf, settingsOf, hviews]
  refine viewRoots_ok ?_
  cases views with
  | none => exact .inl rfl
  | some x =>
    obtain ⟨entries, hsettings, hfind⟩ := hentries x rfl
    exact h.views entries x hsettings hfind

end WellTyped

/-- A message with which some helper cancels the render that calls it. -/
def Site.CancelsWith (s : Site) (message : String) : Prop :=
  ∃ h ∈ s.activity.helpers, ∃ call, h.body call = .cancelled message

/-- A file that a render reads: the layout that it finds, or the page once its layout is settled. -/
inductive Site.Reads (s : Site) (r : Request) : String → Prop
  | layout {decision : LayoutDecision} {name : String} {path : Path}
    (hdecision : LayoutDecision.ofOptions (s.optionsAt r.options) = .ok decision)
    (hname : decision.name? = some name)
    (hcache : (s.cacheOf r.engine).get? Space.layout.text name = none)
    (hfile : (r.search (s.optionsAt r.options) name).file? s.files = .ok (some path)) :
    Reads s r path.text
  | page {layout : Option Wrapping} (hlayout : s.layoutFor r = .ok layout)
    (hcache : (s.cacheOf r.engine).get? Space.file.text r.path = none) : Reads s r r.path

/-- The failures of a render: that of a file, of a template, or of a helper. -/
def Stop.Declared : Stop → Prop
  | .failure (.partials _ _ _ _) => False
  | .failure _ => True
  | .interrupt _ => False

/-- What ends a render although no failure stands for it. -/
inductive Site.Escapes (s : Site) (r : Request) : Stop → Prop
  /-- The bytes of a file are no text. -/
  | decode {path : String} {why : Text.Utf8Error} (hreads : s.Reads r path)
    (hread : s.files.readText (.ofText path) = .error (.decode why)) :
    Escapes s r (.fault (.unreadable (.decode why)))
  | null (hreads : s.Reads r r.path) (hnull : '\x00' ∈ r.path.toList) :
    Escapes s r (.fault (.value "embedded null byte"))
  /-- The timeout of the engine is no number. -/
  | timeout {f : Fault} (h : deadlineOf (s.engine r.engine).timeout = .error f) :
    Escapes s r (.fault f)
  | cancelled {message : String} (h : s.CancelsWith message) :
    Escapes s r (.interrupt (.cancelled message))

section Ends

variable {s : Site} {r : Request} {e : Stop}

theorem cancelWithin_cancelsWith (s : Site) : CancelWithin s.CancelsWith s.activity.helpers :=
  fun h hh call _ hcancelled => ⟨h, hh, call, hcancelled⟩

theorem no_null_of_search {x : Search} {files : Tree} {path : Path}
    (h : x.file? files = .ok (some path)) : '\x00' ∉ path.text.toList := by
  rw [Search.file?] at h
  cases hroots : x.roots with
  | error f =>
    rw [hroots] at h
    cases h
  | ok roots =>
    rw [hroots] at h
    have hfound : searchRoots files (.ofText (layoutFile x.name x.extension)) roots = some path :=
      Except.ok.inj h
    exact no_null_of_isFile (List.find?_some hfound)

theorem template_error {path : String} (hreads : s.Reads r path)
    (h : s.template r.engine path = .error e) : e.Declared ∨ s.Escapes r e := by
  rw [Site.template_eq] at h
  cases htext : templateText s.files path with
  | ok source =>
    rw [htext] at h
    dsimp only at h
    split at h
    · cases h
    · cases h
      exact .inl trivial
  | error stop =>
    rw [htext] at h
    cases h
    obtain ⟨hnull, rfl⟩ | ⟨why, -, rfl⟩ | ⟨why, hread, rfl⟩ := templateText_error htext
    · cases hreads with
      | page hlayout hcache => exact .inr (.null (.page hlayout hcache) hnull)
      | layout _ _ _ hfile => exact absurd hnull (no_null_of_search hfile)
    · exact .inl trivial
    · exact .inr (.decode hreads hread)

theorem layoutFor_error (hoptions : WellTyped (s.optionsAt r.options))
    (h : s.layoutFor r = .error e) : e.Declared ∨ s.Escapes r e := by
  have hby := s.layoutFor_by r
  rw [h] at hby
  generalize hresult : (Except.error e : Except Stop (Option Wrapping)) = result at hby
  cases hby with
  | undecided hdecision =>
    obtain ⟨decision, hwell⟩ := hoptions.ofOptions_ok
    cases hdecision.symm.trans hwell
  | unwanted => cases hresult
  | kept => cases hresult
  | fault _ _ _ hfile =>
    obtain ⟨roots, hroots⟩ := hoptions.rootsOf_ok
    rw [Search.file?, Request.search, hroots] at hfile
    cases hfile
  | missing =>
    split at hresult
    · cases hresult
      exact .inl trivial
    · cases hresult
  | @found _ _ path hdecision hname hnew hfile =>
    cases htemplate : s.template r.engine path.text with
    | ok c =>
      rw [htemplate] at hresult
      cases hresult
    | error stop =>
      rw [htemplate] at hresult
      cases hresult
      exact template_error (.layout hdecision hname hnew hfile) htemplate

theorem pageFor_error {layout : Option Wrapping} (hlayout : s.layoutFor r = .ok layout)
    (h : s.pageFor r = .error e) : e.Declared ∨ s.Escapes r e := by
  rw [Site.pageFor] at h
  cases hcache : (s.cacheOf r.engine).get? Space.file.text r.path with
  | some c =>
    rw [hcache] at h
    cases h
  | none =>
    rw [hcache] at h
    exact template_error (.page hlayout hcache) h

theorem Stop.OfTemplate.declared (h : e.OfTemplate s.CancelsWith) : e.Declared ∨ s.Escapes r e := by
  obtain ⟨name, f, rfl⟩ | ⟨message, hcancels, rfl⟩ := h
  · exact .inl trivial
  · exact .inr (.cancelled hcancels)

theorem Stop.OfHelper.declared (h : e.OfHelper s.CancelsWith) : e.Declared ∨ s.Escapes r e := by
  obtain ⟨name, message, cause, rfl⟩ | ⟨message, hcancels, rfl⟩ := h
  · exact .inl trivial
  · exact .inr (.cancelled hcancels)

/-- A wait that ends without a page, with a well-formed timeout, was ended by a helper. -/
theorem runStages_settling_error {C : String → Prop} {q : Nat} {rendered : String} {n rounds : Nat}
    {w : Settling} (hw : w.Unforced C) (hC : CancelWithin C s.activity.helpers)
    (hdeadline : ∀ f, deadlineOf (s.engine r.engine).timeout ≠ .error f)
    (h : (runStages r n (.settling q rendered rounds w) s).1 = .ended (.error e)) :
    e.OfHelper C := by
  induction n generalizing s w rounds with
  | zero => cases h
  | succ n ih =>
    have hhelpers := Stage.cancelWithin_step (.settling q rendered rounds w) hC r
    rw [runStages_succ r n s rfl] at h
    rcases step_settling_unforced hw hC with ⟨v, activity, hstep, hv⟩ | ⟨x, hstep, hx⟩
    · rw [hstep] at h hhelpers
      exact ih hv hhelpers hdeadline h
    · rw [hstep, runStages_ended] at h
      rcases hx e (Stage.ended.inj h) with hhelper | ⟨f, hfault, -⟩
      · exact hhelper
      · exact absurd hfault (hdeadline f)

theorem timeout_pageText (r : Request) (q : Nat) (layout : Option Wrapping) (page : Compiled)
    (s : Site) :
    ((pageText r q layout page s).2.engine r.engine).timeout = (s.engine r.engine).timeout := by
  refine pageText_keeps (P := fun t => (t.engine r.engine).timeout = (s.engine r.engine).timeout)
    ?_ ?_ ?_ layout page rfl
  · exact fun _ _ _ _ ht => ht
  · intro d name t ht
    rw [loadFor]
    cases hload : (t.engine d).load name with
    | error f => exact ht
    | ok x => exact (t.alike_setEngine (Engine.alike_of_load hload) r.engine).1.timeout.trans ht
  · exact fun _ _ ht => ht

/-- A page that is no page, unless nothing says so: a render that waits for ever counts as
cancelled. -/
theorem printed_error {layout : Option Wrapping} {page : Compiled}
    (h : s.printed r layout page = .error e) (hother : e ≠ .interrupt (.cancelled "")) :
    e.Declared ∨ s.Escapes r e := by
  have hwithin := cancelWithin_cancelsWith s
  have htimeout := timeout_pageText r s.activity.registries.length layout page s.opened
  have hhelpers := helpers_pageText r s.activity.registries.length layout page s.opened
  have htext : ∀ e, (pageText r s.activity.registries.length layout page s.opened).1 = .error e →
      e.OfTemplate s.CancelsWith := fun _ => pageText_error hwithin
  rw [Site.printed] at h
  obtain ⟨stop, t, hpage, hafter⟩ | ⟨html, t, log, hpage, -, hafter⟩ |
    ⟨html, t, f, hpage, -, hfault, hafter⟩ | ⟨html, t, deadline, hpage, -, hdeadline, hafter⟩ :=
      after_runPage_cases r s.activity.registries.length layout page s.opened
  all_goals
    rw [hpage] at htimeout hhelpers htext
    rw [hafter] at h
    dsimp only at h htimeout hhelpers
  · rw [runStages_ended] at h
    cases h
    exact (htext e rfl).declared
  · rw [runStages_ended] at h
    cases h
  · rw [runStages_ended] at h
    cases h
    rw [htimeout] at hfault
    exact .inr (.timeout hfault)
  · have hends : ∀ stage : Stage, stage.resultOrCancelled = .error e →
        stage = .ended (.error e) := by
      intro stage hstage
      cases stage with
      | ended x =>
        cases hstage
        rfl
      | _ =>
        cases hstage
        exact absurd rfl hother
    have hended := hends _ h
    refine (runStages_settling_error (Settling.unforced_ofPending _) ?_ ?_ hended).declared
    · show CancelWithin s.CancelsWith t.activity.helpers
      rw [hhelpers]
      exact hwithin
    · intro f hfault
      cases hdeadline.symm.trans hfault

theorem runStages_add (r : Request) (n m : Nat) (stage : Stage) (s : Site) :
    runStages r (n + m) stage s = runStages r m (runStages r n stage s).1 (runStages r n stage s).2 := by
  induction n generalizing stage s with
  | zero => rw [Nat.zero_add, runStages]
  | succ n ih =>
    rw [Nat.succ_add]
    cases hresult : stage.result? with
    | none => rw [runStages_succ r _ s hresult, runStages_succ r _ s hresult, ih]
    | some x =>
      cases stage with
      | ended y => rw [runStages_ended, runStages_ended, runStages_ended]
      | _ => cases hresult

/-- A render that ends has ended within the patience that it is given. -/
theorem render_of_ended {n : Nat} {result : Except Stop String}
    (h : (runStages r n .opening s).1 = .ended result) : (render r s).1 = result := by
  have hcomes := comesTo_opening r s
  have hlong : slowest s.activity.helpers + 7 ≤ n + (slowest s.activity.helpers + 7) :=
    Nat.le_add_left _ _
  have hresult := hcomes _ hlong
  rw [runStages_add, h, runStages_ended] at hresult
  have hpatience : slowest s.activity.helpers + 7 ≤ patience s := by
    rw [patience_eq_slowest]
    omega
  exact (hcomes _ hpatience).trans hresult.symm

/-- A file that a render reads in vain ends it. -/
theorem Site.Reads.render_error {path : String} (h : s.Reads r path)
    (htemplate : s.template r.engine path = .error e) : (render r s).1 = .error e := by
  rw [render_eq]
  cases h with
  | page hlayout hcache =>
    rw [hlayout]
    show (s.pageFor r).bind _ = _
    rw [Site.pageFor, hcache]
    dsimp only
    rw [htemplate]
    rfl
  | layout hdecision hname hcache hfile =>
    rw [Site.layoutFor, hdecision]
    dsimp only
    rw [hname]
    dsimp only
    rw [hcache]
    dsimp only
    rw [Site.foundLayout, hfile]
    dsimp only
    rw [htemplate]
    rfl

theorem readText_of_not_isFile {files : Tree} {p : Path} (h : files.isFile p = false) :
    ∃ why, files.readText p = .error (.file why) := by
  have hread : ∃ why, files.read p = .error why := by
    rw [Tree.isFile, Tree.find?] at h
    rw [Tree.read]
    cases hplace : files.place p with
    | error fault => exact ⟨_, rfl⟩
    | ok place =>
      rw [hplace] at h
      dsimp only at h ⊢
      cases hentry : files.at? place with
      | none => exact ⟨_, rfl⟩
      | some entry =>
        rw [hentry] at h
        cases entry with
        | folder => exact ⟨_, rfl⟩
        | file bytes => cases h
  obtain ⟨why, hwhy⟩ := hread
  rw [Tree.readText, hwhy]
  exact ⟨why, rfl⟩

theorem template_of_not_isFile {path : String} (hnull : '\x00' ∉ path.toList)
    (h : s.files.isFile (.ofText path) = false) :
    ∃ why : FileError, s.template r.engine path = .error (.failure (.unreadable path
      ("Failed to read template " ++ path ++ ": " ++ why.message)
      (some (.unreadable (.file why))))) := by
  obtain ⟨why, hread⟩ := readText_of_not_isFile h
  refine ⟨why, ?_⟩
  rw [Site.template_eq, templateText, if_neg hnull, hread]

theorem template_of_decode {path : String} {why : Text.Utf8Error} (hnull : '\x00' ∉ path.toList)
    (h : s.files.readText (.ofText path) = .error (.decode why)) :
    s.template r.engine path = .error (.fault (.unreadable (.decode why))) := by
  rw [Site.template_eq, templateText, if_neg hnull, h]

/-- A layout asked for by name that no view root holds. -/
theorem render_of_missing_layout {name : String} {roots : List Path}
    (hdecision : LayoutDecision.ofOptions (s.optionsAt r.options) = .ok (.explicit name))
    (hcache : (s.cacheOf r.engine).get? Space.layout.text name = none)
    (hroots : rootsOf (s.optionsAt r.options) = .ok roots)
    (hmissing : ∀ root ∈ roots,
      s.files.isFile (root ++ .ofText (layoutFile name (extension r.path))) = false) :
    (render r s).1 =
      .error (.failure (.unreadable name ("Layout not found: " ++ name) none)) := by
  have hsearch : searchRoots s.files (.ofText (layoutFile name (extension r.path))) roots = none := by
    rw [searchRoots, List.find?_eq_none]
    intro path hpath
    obtain ⟨root, hroot, rfl⟩ := List.mem_map.mp hpath
    rw [hmissing root hroot]
    exact Bool.false_ne_true
  have hfile : (r.search (s.optionsAt r.options) name).file? s.files = .ok none := by
    rw [Search.file?, Request.search, hroots]
    exact congrArg Except.ok hsearch
  have hname : (LayoutDecision.explicit name).name? = some name := rfl
  rw [render_eq, Site.layoutFor, hdecision]
  dsimp only
  rw [hname]
  dsimp only
  rw [hcache]
  dsimp only
  rw [Site.foundLayout, hfile]
  rfl

end Ends

/-- A render with well-formed options that ends, whatever files there are and whatever its helpers
do, ends with a page or with the failure of a file, a template or a helper; what escapes besides is
a file without text, a null character in the path, and the cancellation by a helper. A layout asked
for that no view root holds is the failure to read it, with its name; so is a page or a layout that
is no file, with its path. But one that is a file without text has no failure of its own. -/
theorem ends_declared (r : Request) (s : Site) (hoptions : WellTyped (s.optionsAt r.options)) :
    (∀ n result, (runStages r n .opening s).1 = .ended result →
      (render r s).1 = result ∧ ∀ e, result = .error e → e.Declared ∨ s.Escapes r e) ∧
    (∀ name roots, LayoutDecision.ofOptions (s.optionsAt r.options) = .ok (.explicit name) →
      (s.cacheOf r.engine).get? Space.layout.text name = none →
      rootsOf (s.optionsAt r.options) = .ok roots →
      (∀ root ∈ roots,
        s.files.isFile (root ++ .ofText (layoutFile name (extension r.path))) = false) →
      (render r s).1 =
        .error (.failure (.unreadable name ("Layout not found: " ++ name) none))) ∧
    ∀ path, s.Reads r path → '\x00' ∉ path.toList →
      (s.files.isFile (.ofText path) = false → ∃ why : FileError,
        (render r s).1 = .error (.failure (.unreadable path
          ("Failed to read template " ++ path ++ ": " ++ why.message)
          (some (.unreadable (.file why)))))) ∧
      ∀ why, s.files.readText (.ofText path) = .error (.decode why) →
        (render r s).1 = .error (.fault (.unreadable (.decode why))) := by
  refine ⟨?_, fun name roots => render_of_missing_layout, ?_⟩
  · intro n result hended
    have hresult := render_of_ended hended
    refine ⟨hresult, ?_⟩
    rintro e rfl
    by_cases hcancelled : ∃ message, e = .interrupt (.cancelled message)
    · obtain ⟨message, rfl⟩ := hcancelled
      have hforced := Stage.Unforced.moves (C := s.CancelsWith) (r := r) (x := (.opening, s)) trivial
        (Stage.runStages_moves r n (cancelWithin_cancelsWith s))
      rw [hended] at hforced
      exact .inr (.cancelled (hforced message rfl))
    · rw [render_eq] at hresult
      cases hlayout : s.layoutFor r with
      | error stop =>
        rw [hlayout] at hresult
        cases hresult
        exact layoutFor_error hoptions hlayout
      | ok layout =>
        rw [hlayout] at hresult
        change (s.pageFor r).bind (s.printed r layout) = .error e at hresult
        cases hpage : s.pageFor r with
        | error stop =>
          rw [hpage] at hresult
          cases hresult
          exact pageFor_error hlayout hpage
        | ok page =>
          rw [hpage] at hresult
          exact printed_error hresult fun he => hcancelled ⟨"", he⟩
  · intro path hreads hnull
    refine ⟨fun hmissing => ?_, fun why hread => ?_⟩
    · obtain ⟨why, htemplate⟩ := template_of_not_isFile (r := r) hnull hmissing
      exact ⟨why, hreads.render_error htemplate⟩
    · exact hreads.render_error (template_of_decode hnull hread)

/-- A directory with a file of one byte that is no text, options without a layout, and options with
a layout that is nowhere. -/
def brokenSite : Site :=
  { files := ⟨[(["v"], .folder), (["v", "byte.html"], .file [255])], []⟩
    engines := [{ cache := 0, partialExtensions := [] }]
    caches := [{}]
    options :=
      [[("layout", .bool false)],
        [("layout", .str "main"), ("settings", .dict [(.str "views", .str "/v")])]]
    activity := { ids := fun _ => "" } }

theorem wellTyped_brokenSite (second : Bool) :
    WellTyped (brokenSite.optionsAt (if second then 1 else 0)) := by
  cases second with
  | false => exact ⟨fun _ => nofun, fun _ _ => nofun, fun _ _ => nofun⟩
  | true =>
    refine ⟨?_, ?_, ?_⟩
    · rintro v ⟨⟩
      exact .inr ⟨_, rfl⟩
    · rintro entries v ⟨⟩ hv
      cases hv
    · rintro entries v ⟨⟩ hv
      cases hv
      exact .inr (.inl ⟨_, .inl rfl⟩)

/-- A directory is no page, and what is nowhere is no layout. -/
theorem ends_declared_of_broken_site :
    (∃ why : FileError, (render ⟨0, "/v", 0⟩ brokenSite).1 = .error (.failure (.unreadable "/v"
      ("Failed to read template /v: " ++ why.message) (some (.unreadable (.file why)))))) ∧
    (render ⟨0, "/v", 1⟩ brokenSite).1 =
      .error (.failure (.unreadable "main" "Layout not found: main" none)) := by
  have hnone : brokenSite.layoutFor ⟨0, "/v", 0⟩ = .ok none := rfl
  have hpage := (ends_declared ⟨0, "/v", 0⟩ brokenSite (wellTyped_brokenSite false)).2.2 "/v"
    (.page hnone rfl) (by decide)
  have hlayout := (ends_declared ⟨0, "/v", 1⟩ brokenSite (wellTyped_brokenSite true)).2.1 "main"
    [.ofText "/v"] rfl rfl rfl
  refine ⟨hpage.1 ?_, hlayout ?_⟩
  · rw [Tree.isFile, Tree.find?, Tree.place_eq]
    decide +kernel
  · intro root hroot
    rw [List.mem_singleton.mp hroot, Tree.isFile, Tree.find?, Tree.place_eq]
    decide +kernel

/-- A page of bytes that are no text ends with their fault, which is no failure of a render. -/
theorem undeclared_of_undecodable_page :
    WellTyped (brokenSite.optionsAt 0) ∧ ∃ why,
      (render ⟨0, "/v/byte.html", 0⟩ brokenSite).1 = .error (.fault (.unreadable (.decode why))) ∧
        ¬ Stop.Declared (.fault (.unreadable (.decode why))) := by
  have hread : brokenSite.files.readText (.ofText "/v/byte.html") =
      .error (.decode ⟨0, [255], .badStart⟩) := by
    simp only [Tree.readText, Tree.read, Tree.place_eq]
    decide +kernel
  have hnone : brokenSite.layoutFor ⟨0, "/v/byte.html", 0⟩ = .ok none := rfl
  have hreads : brokenSite.Reads ⟨0, "/v/byte.html", 0⟩ "/v/byte.html" := .page hnone rfl
  exact ⟨wellTyped_brokenSite false, _,
    hreads.render_error (template_of_decode (by decide) hread), id⟩

end DeferredViews.View
