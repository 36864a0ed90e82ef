import DeferredViews.Proofs.Lockstep
import DeferredViews.Proofs.Settlement

/-!
# Two renders up to their pages

Before it runs its page, a render looks only at its files, its options but for `body`, the cache and
a few settings of its engine. Two renders for which these are the same, whatever else differs
between their sites, choose the same layout, read the same files, compile the same templates, and
stop with the same failures, until both run the same page in the same layout.
-/
namespace DeferredViews.View

open Deferred Files

/-- A layout that options ask for and where it is found. -/
def FindsLayout (files : Tree) (options : Locals) (extension name : String) (path : Path) : Prop :=
  ∃ decision views record, LayoutDecision.ofOptions options = .ok decision ∧
    decision.name? = some name ∧ lookup? (settingsOf options) "views" = .ok views ∧
    findLayout files name (views.getD .null) extension = .ok (some path, record)

/-- What two sites have in common for a render up to its page, and what its steps so far keep.
`Kept` tells which templates the cache may hold. -/
structure Mirror {W : Type} (r : Request) (files : Tree) (escape : Bool) (options : Locals)
    (Kept : Space → String → Compiled → Prop) (I : W → Site → Site → Prop) : Prop where
  sameFiles : ∀ {w s t}, I w s t → s.files = files ∧ t.files = files
  sameEscape : ∀ {w s t}, I w s t →
    (s.engine r.engine).autoescape = escape ∧ (t.engine r.engine).autoescape = escape
  sameOptions : ∀ {w s t name}, I w s t → name ≠ "body" →
    (s.optionsAt r.options).get? name = options.get? name ∧
      (t.optionsAt r.options).get? name = options.get? name
  sameCache : ∀ {w s t}, I w s t → s.cacheOf r.engine = t.cacheOf r.engine
  cached : ∀ {w s t space key c}, I w s t →
    (s.cacheOf r.engine).get? (Space.text space) key = some c → Kept space key c
  notes : ∀ {w s t} (a b : Log.Record), I w s t → I w (s.note a) (t.note b)
  count : ∀ {w s t}, I w s t →
    I w (s.setEngine r.engine { s.engine r.engine with compiles := (s.engine r.engine).compiles + 1 })
      (t.setEngine r.engine { t.engine r.engine with compiles := (t.engine r.engine).compiles + 1 })
  keeps : ∀ {w s t space key c}, I w s t → Kept space key c →
    I w
      (s.setCacheOf r.engine ((s.cacheOf r.engine).put (Space.text space) key c
        ((options.get? "cache").any Value.truthy)).2)
      (t.setCacheOf r.engine ((s.cacheOf r.engine).put (Space.text space) key c
        ((options.get? "cache").any Value.truthy)).2)
  page : ∀ {source template}, files.readText (.ofText r.path) = .ok source →
    Template.compile escape none source = .ok template → Kept .file r.path ⟨r.engine, template⟩
  layout : ∀ {name path source template}, FindsLayout files options (extension r.path) name path →
    files.readText (.ofText path.text) = .ok source →
    Template.compile escape none source = .ok template → Kept .layout name ⟨r.engine, template⟩

/-- The decision on a layout looks only at two options. -/
theorem ofOptions_congr {l m : Locals} (hlayout : l.get? "layout" = m.get? "layout")
    (hsettings : l.get? "settings" = m.get? "settings") :
    LayoutDecision.ofOptions l = LayoutDecision.ofOptions m := by
  rw [LayoutDecision.ofOptions, LayoutDecision.ofOptions, hlayout, hsettings]

theorem settingsOf_congr {l m : Locals} (h : l.get? "settings" = m.get? "settings") :
    settingsOf l = settingsOf m := by
  rw [settingsOf, settingsOf, h]

/-- Where two parts of a render lead, one after the other. -/
theorem after_bind {W α β : Type} [Preorder W] {I : W → Site → Site → Prop} {R : W → α → β → Prop}
    {Post : Stage × Site → Stage × Site → Prop} {w : W} {x : Work α} {y : Work β}
    {f : α → Work Stage} {g : β → Work Stage} (hxy : Lockstep I R w x y)
    (hstop : ∀ v e s t, I v s t → Post (.ended (.error e), s) (.ended (.error e), t))
    (hnext : ∀ v a b, w ≤ v → R v a b → ∀ s t, I v s t →
      Post (Stage.after (f a s)) (Stage.after (g b t))) :
    ∀ s t, I w s t → Post (Stage.after ((x >>= f) s)) (Stage.after ((y >>= g) t)) := by
  intro s t hst
  obtain ⟨v, hwv, hst', hend⟩ := hxy s t hst
  rw [bind_apply, bind_apply]
  revert hst' hend
  generalize x s = rx
  generalize y t = ry
  obtain ⟨ex, s'⟩ := rx
  obtain ⟨ey, t'⟩ := ry
  intro hst' hend
  dsimp only at hend
  cases hend with
  | @ok a b hab => exact hnext v a b hwv hab s' t' hst'
  | error e => exact hstop v e s' t' hst'

/-- Reading a file changes nothing, and depends on the files alone. -/
theorem readTemplate_apply (path : String) (s : Site) :
    readTemplate path s = (templateText s.files path, s) := by
  rw [readTemplate, bind_apply, get_apply]
  dsimp only
  cases templateText s.files path <;> rfl

/-- What keeps a file from being read: its path holds a null character, the file system refuses it,
or it is no text. -/
theorem templateText_error {files : Tree} {path : String} {e : Stop}
    (h : templateText files path = .error e) :
    ('\x00' ∈ path.toList ∧ e = .fault (.value "embedded null byte")) ∨
    (∃ why, files.readText (.ofText path) = .error (.file why) ∧
      e = .failure (.unreadable path ("Failed to read template " ++ path ++ ": " ++ why.message)
        (some (.unreadable (.file why))))) ∨
    (∃ why, files.readText (.ofText path) = .error (.decode why) ∧
      e = .fault (.unreadable (.decode why))) := by
  rw [templateText] at h
  split at h
  · next hnull =>
    cases h
    exact .inl ⟨hnull, rfl⟩
  · split at h
    · cases h
    · next why hread =>
      cases h
      exact .inr (.inl ⟨why, hread, rfl⟩)
    · next why hread =>
      cases h
      exact .inr (.inr ⟨why, hread, rfl⟩)

theorem readText_of_templateText {files : Tree} {path text : String}
    (h : templateText files path = .ok text) : files.readText (.ofText path) = .ok text := by
  rw [templateText] at h
  split at h
  · cases h
  · split at h
    · next hread =>
      cases h
      exact hread
    · cases h
    · cases h

namespace Mirror

variable {W : Type} [Preorder W] {r : Request} {files : Tree} {escape : Bool} {options : Locals}
  {Kept : Space → String → Compiled → Prop} {I : W → Site → Site → Prop}

theorem note_lockstep (hm : Mirror r files escape options Kept I) (w : W) (a b : Log.Record) :
    Lockstep I (fun _ _ _ => True) w (View.note a) (View.note b) :=
  .modify_both fun _ _ hst => hm.notes a b hst

theorem orFault_lockstep {α : Type} (w : W) (x : Except Fault α) :
    Lockstep I (fun _ a b => a = b ∧ x = .ok a) w (orFault x) (orFault x) := by
  cases x with
  | ok a => exact .pure ⟨rfl, rfl⟩
  | error f => exact .throw _

/-- Both read the same file. -/
theorem readTemplate_lockstep (hm : Mirror r files escape options Kept I) (w : W) (path : String) :
    Lockstep I (fun _ a b => a = b ∧ files.readText (.ofText path) = .ok a) w (readTemplate path)
      (readTemplate path) := by
  refine Lockstep.get_bind fun s t hst => ?_
  obtain ⟨hs, ht⟩ := hm.sameFiles hst
  rw [hs, ht]
  cases h : templateText files path with
  | ok text => exact .pure ⟨rfl, readText_of_templateText h⟩
  | error stop => exact .throw _

theorem compileFile_apply (e : Nat) (path source : String) (u : Site) :
    compileFile e path source u =
      match Template.compile (u.engine e).autoescape none source with
      | .ok t => (.ok ⟨e, t⟩, u.setEngine e { u.engine e with
          compiles := (u.engine e).compiles + 1 })
      | .error f => (.error (.failure (.template path f.message (some (.syntaxError f)))),
          u.setEngine e { u.engine e with compiles := (u.engine e).compiles + 1 }) := by
  have hcompile : (liftM (compileFor e source) : Work (Except SyntaxFault Compiled)) u =
      (.ok (compileFor e source u).1, (compileFor e source u).2) := rfl
  have hresult : (compileFor e source u).1 =
      (Template.compile (u.engine e).autoescape none source).map fun t => ⟨e, t⟩ := rfl
  rw [compileFile, bind_apply, hcompile]
  dsimp only
  rw [hresult]
  cases Template.compile (u.engine e).autoescape none source <;> rfl

/-- Both compile a source alike. -/
theorem compileFile_lockstep (hm : Mirror r files escape options Kept I) (w : W)
    (path source : String) :
    Lockstep I
      (fun _ a b => a = b ∧ ∃ t, Template.compile escape none source = .ok t ∧ a = ⟨r.engine, t⟩) w
      (compileFile r.engine path source) (compileFile r.engine path source) := by
  intro s t hst
  obtain ⟨hs, ht⟩ := hm.sameEscape hst
  have hcount := hm.count hst
  rw [compileFile_apply, compileFile_apply, hs, ht]
  cases Template.compile escape none source with
  | ok template => exact ⟨w, le_refl w, hcount, .ok ⟨rfl, template, rfl, rfl⟩⟩
  | error f => exact ⟨w, le_refl w, hcount, .error _⟩

/-- Both find the same in the cache. -/
theorem cached_lockstep (hm : Mirror r files escape options Kept I) (w : W) (space : Space)
    (key : String) :
    Lockstep I (fun _ a b => a = b ∧ ∀ c, a = some c → Kept space key c) w (cached? r space key)
      (cached? r space key) := by
  refine Lockstep.get_bind fun s t hst => ?_
  have hcache := hm.sameCache hst
  rw [← hcache]
  cases hget : (s.cacheOf r.engine).get? space.text key with
  | none => exact .pure ⟨rfl, nofun⟩
  | some c =>
    have hkept := hm.cached hst hget
    refine (hm.note_lockstep w _ _).bind fun v _ _ _ _ => .pure ⟨rfl, ?_⟩
    rintro _ ⟨⟩
    exact hkept

/-- Both keep a template that may be kept, or both do not. -/
theorem keep_lockstep (hm : Mirror r files escape options Kept I) (w : W) {space : Space}
    {key : String} {c : Compiled} (hc : Kept space key c) :
    Lockstep I (fun _ _ _ => True) w (View.keep r space key c)
      (View.keep r space key c) := by
  have hname : ("cache" : String) ≠ "body" := by decide
  refine Lockstep.get_bind fun s t hst => ?_
  obtain ⟨hs, ht⟩ := hm.sameOptions hst hname
  have hcache := hm.sameCache hst
  have hkeeps := hm.keeps hst hc
  rw [hs, ht, ← hcache]
  refine (Lockstep.set_both hkeeps).bind fun v _ _ _ _ => ?_
  split
  · exact hm.note_lockstep v _ _
  · exact .pure trivial

end Mirror

/-- Where two renders lead that stop alike, or run the same page. -/
structure Closes {W : Type} (r : Request) (Kept : Space → String → Compiled → Prop)
    (I : W → Site → Site → Prop) (q p : Nat) (Post : Stage × Site → Stage × Site → Prop) :
    Prop where
  stopped : ∀ {w s t} (e : Stop), I w s t → Post (.ended (.error e), s) (.ended (.error e), t)
  ran : ∀ {w s t layout page}, I w s t →
    (∀ l : Wrapping, layout = some l → ∃ name, Kept .layout name l.compiled) →
    Kept .file r.path page →
    Post (Stage.after (runPage r q layout page s)) (Stage.after (runPage r p layout page t))

/-- Where they lead if their pages may still have to be read. -/
structure ClosesPage {W : Type} (r : Request) (Kept : Space → String → Compiled → Prop)
    (I : W → Site → Site → Prop) (q p : Nat) (Post : Stage × Site → Stage × Site → Prop) : Prop
    extends Closes r Kept I q p Post where
  readingPage : ∀ {w s t layout}, I w s t →
    (∀ l : Wrapping, layout = some l → ∃ name, Kept .layout name l.compiled) →
    Post (.readingPage q layout, s) (.readingPage p layout, t)

/-- Where they lead if their layouts may still have to be read. -/
structure ClosesLayout {W : Type} (r : Request) (files : Tree) (options : Locals)
    (Kept : Space → String → Compiled → Prop) (I : W → Site → Site → Prop) (q p : Nat)
    (Post : Stage × Site → Stage × Site → Prop) : Prop
    extends ClosesPage r Kept I q p Post where
  readingLayout : ∀ {w s t name path}, I w s t →
    FindsLayout files options (extension r.path) name path →
    Post (.readingLayout q name path, s) (.readingLayout p name path, t)

namespace Mirror

variable {W : Type} [Preorder W] {r : Request} {files : Tree} {escape : Bool} {options : Locals}
  {Kept : Space → String → Compiled → Prop} {I : W → Site → Site → Prop} {q p : Nat}
  {Post : Stage × Site → Stage × Site → Prop}

/-- Once the layout is settled. -/
theorem startPage_post (hm : Mirror r files escape options Kept I)
    (hc : ClosesPage r Kept I q p Post) {layout : Option Wrapping}
    (hlayout : ∀ l : Wrapping, layout = some l → ∃ name, Kept .layout name l.compiled) (w : W) :
    ∀ s t, I w s t → Post (Stage.after (startPage r q layout s))
      (Stage.after (startPage r p layout t)) := by
  refine after_bind (hm.cached_lockstep w .file r.path) (fun v e s t hst => hc.stopped e hst) ?_
  rintro v found _ hwv ⟨rfl, hkept⟩ s t hst
  cases found with
  | none => exact hc.readingPage hst hlayout
  | some c => exact hc.ran hst hlayout (hkept c rfl)

/-- When a layout is to be looked for. -/
theorem startLayout_post (hm : Mirror r files escape options Kept I)
    (hc : ClosesLayout r files options Kept I q p Post) {decision : LayoutDecision} {name : String}
    (hdecision : LayoutDecision.ofOptions options = .ok decision)
    (hname : decision.name? = some name) (w : W) :
    ∀ s t, I w s t → Post (Stage.after (startLayout r q decision name s))
      (Stage.after (startLayout r p decision name t)) := by
  have hsettings : ("settings" : String) ≠ "body" := by decide
  refine after_bind (hm.cached_lockstep w .layout name) (fun v e s t hst => hc.stopped e hst) ?_
  rintro v found _ hwv ⟨rfl, hkept⟩ s t hst
  cases found with
  | some c =>
    refine hm.startPage_post hc.toClosesPage ?_ v s t hst
    rintro l ⟨⟩
    exact ⟨name, hkept c rfl⟩
  | none =>
    obtain ⟨hs, ht⟩ := hm.sameFiles hst
    obtain ⟨hs', ht'⟩ := hm.sameOptions hst hsettings
    dsimp only
    rw [bind_apply, bind_apply, get_apply, get_apply]
    dsimp only
    rw [settingsOf_congr hs', settingsOf_congr ht', hs, ht]
    refine after_bind (I := I) (orFault_lockstep v _) (fun v e s t hst => hc.stopped e hst) ?_ s t hst
    rintro u views _ hvu ⟨rfl, hviews⟩ s t hst
    refine after_bind (I := I) (orFault_lockstep u _) (fun v e s t hst => hc.stopped e hst) ?_ s t hst
    rintro u' ⟨found, record⟩ _ huu' ⟨rfl, hfound⟩ s t hst
    refine after_bind (hm.note_lockstep u' _ _) (fun v e s t hst => hc.stopped e hst) ?_ s t hst
    rintro x - - hux - s t hst
    cases found with
    | some path => exact hc.readingLayout hst ⟨decision, views, record, hdecision, hname, hviews, hfound⟩
    | none =>
      dsimp only
      split
      · exact hc.stopped _ hst
      · refine after_bind (hm.note_lockstep x _ _) (fun v e s t hst => hc.stopped e hst) ?_ s t hst
        rintro y - - hxy - s t hst
        refine hm.startPage_post hc.toClosesPage ?_ y s t hst
        rintro l ⟨⟩

/-- When the layout has been read. -/
theorem readingLayout_post (hm : Mirror r files escape options Kept I)
    (hc : ClosesPage r Kept I q p Post) {name : String} {path : Path}
    (hpath : FindsLayout files options (extension r.path) name path) (w : W) :
    ∀ s t, I w s t → Post (Stage.step r (.readingLayout q name path) s)
      (Stage.step r (.readingLayout p name path) t) := by
  refine after_bind (hm.readTemplate_lockstep w path.text)
    (fun v e s t hst => hc.stopped e hst) ?_
  rintro v source _ hwv ⟨rfl, hread⟩ s t hst
  refine after_bind (hm.compileFile_lockstep v path.text source)
    (fun v e s t hst => hc.stopped e hst) ?_ s t hst
  rintro u c _ hvu ⟨rfl, template, hcompile, rfl⟩ s t hst
  have hkept := hm.layout hpath hread hcompile
  refine after_bind (hm.keep_lockstep u hkept) (fun v e s t hst => hc.stopped e hst) ?_ s t hst
  rintro x - - hux - s t hst
  refine hm.startPage_post hc ?_ x s t hst
  rintro l ⟨⟩
  exact ⟨name, hkept⟩

/-- When the page has been read. -/
theorem readingPage_post (hm : Mirror r files escape options Kept I)
    (hc : Closes r Kept I q p Post) {layout : Option Wrapping}
    (hlayout : ∀ l : Wrapping, layout = some l → ∃ name, Kept .layout name l.compiled) (w : W) :
    ∀ s t, I w s t → Post (Stage.step r (.readingPage q layout) s)
      (Stage.step r (.readingPage p layout) t) := by
  refine after_bind (hm.readTemplate_lockstep w r.path) (fun v e s t hst => hc.stopped e hst) ?_
  rintro v source _ hwv ⟨rfl, hread⟩ s t hst
  refine after_bind (hm.compileFile_lockstep v r.path source)
    (fun v e s t hst => hc.stopped e hst) ?_ s t hst
  rintro u c _ hvu ⟨rfl, template, hcompile, rfl⟩ s t hst
  have hkept := hm.page hread hcompile
  refine after_bind (hm.keep_lockstep u hkept) (fun v e s t hst => hc.stopped e hst) ?_ s t hst
  rintro x - - hux - s t hst
  exact hc.ran hst hlayout hkept

end Mirror

/-- A site with one more registry. -/
def Site.opened (s : Site) : Site := { s with activity := s.activity.openRegistry.2 }

theorem Site.length_opened (s : Site) :
    s.opened.activity.registries.length = s.activity.registries.length + 1 := by
  simp [opened, Activity.openRegistry]

theorem Site.room_opened (s : Site) :
    s.activity.registries.length < s.opened.activity.registries.length := by
  rw [s.length_opened]
  exact Nat.lt_succ_self _

/-- The registry that was opened has not issued anything. -/
theorem Site.registry_opened (s : Site) : s.opened.activity.registry s.activity.registries.length =
    { id := s.activity.ids s.activity.registries.length } := by
  simp [opened, Activity.openRegistry, Activity.registry]

/-- When a render opens: its decision, and what it does with a registry of its own. -/
theorem step_opening (r : Request) (s : Site) :
    Stage.step r .opening s =
      match LayoutDecision.ofOptions (s.optionsAt r.options) with
      | .error f => (.ended (.error (.fault f)), s)
      | .ok decision =>
        Stage.after (match decision.name? with
          | none => startPage r s.activity.registries.length none s.opened
          | some name => startLayout r s.activity.registries.length decision name s.opened) := by
  rw [Stage.step_eq, Stage.work, openRender, bind_apply, get_apply]
  dsimp only
  rw [bind_apply]
  cases LayoutDecision.ofOptions (s.optionsAt r.options) with
  | error f => rfl
  | ok decision =>
    rw [orFault, pure_apply]
    dsimp only
    rw [bind_apply, get_apply]
    dsimp only
    cases decision.name? <;> rfl

namespace Mirror

variable {W : Type} [Preorder W] {r : Request} {files : Tree} {escape : Bool} {options : Locals}
  {Kept : Space → String → Compiled → Prop} {I : W → Site → Site → Prop}
  {Post : Stage × Site → Stage × Site → Prop}

/-- When both renders open. -/
theorem opening_post (hm : Mirror r files escape options Kept I) {s t : Site}
    (hc : ClosesLayout r files options Kept I s.activity.registries.length
      t.activity.registries.length Post) {w : W} (hst : I w s.opened t.opened)
    (hstop : ∀ e, Post (.ended (.error e), s) (.ended (.error e), t)) :
    Post (Stage.step r .opening s) (Stage.step r .opening t) := by
  have hlayout := hm.sameOptions hst (by decide : ("layout" : String) ≠ "body")
  have hsettings := hm.sameOptions hst (by decide : ("settings" : String) ≠ "body")
  have hs : LayoutDecision.ofOptions (s.optionsAt r.options) = LayoutDecision.ofOptions options :=
    ofOptions_congr hlayout.1 hsettings.1
  have ht : LayoutDecision.ofOptions (t.optionsAt r.options) = LayoutDecision.ofOptions options :=
    ofOptions_congr hlayout.2 hsettings.2
  rw [step_opening, step_opening, hs, ht]
  cases hdecision : LayoutDecision.ofOptions options with
  | error f => exact hstop _
  | ok decision =>
    cases hname : decision.name? with
    | none =>
      dsimp only
      rw [hname]
      refine hm.startPage_post hc.toClosesPage ?_ w _ _ hst
      rintro l ⟨⟩
    | some name =>
      dsimp only
      rw [hname]
      exact hm.startLayout_post hc hdecision hname w _ _ hst

end Mirror
end DeferredViews.View
