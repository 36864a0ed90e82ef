import DeferredViews.Proofs.Correspondence
import DeferredViews.Proofs.Loading
import DeferredViews.Proofs.Page
import DeferredViews.Proofs.Rows

/-!
# Two renders of templates of the shape

Two sites hold the same files and engines, but what the helpers of an engine do may differ between
them. As long as what one helper prints on the first site, a placeholder, and what its counterpart
prints on the second are one place of a row, whole pages of the shape are one row for both, and so
are pages in their layouts.
-/
namespace DeferredViews.View

open Deferred Files Template

/-! ## What a page shows -/

/-- The calls that a render has put off so far. -/
structure Ledger where
  calls : List Pending

/-- Ledgers only grow. -/
instance : Preorder Ledger where
  le w v := w.calls <+: v.calls
  le_refl w := List.prefix_refl w.calls
  le_trans _ _ _ := List.IsPrefix.trans

/-- Texts for the places of a row that stay when more calls are put off. -/
def Lasting (fill : Ledger → Nat → String) : Prop :=
  ∀ w v n, w ≤ v → n < w.calls.length → fill v n = fill w n

/-- Two texts are one row, the first with placeholders and the second with other texts for the calls
in the ledger. -/
def Shows (id : String) (fill : Ledger → Nat → String) (w : Ledger) (s t : String) : Prop :=
  ∃ row : Row, row.Clean ∧ (∀ n, Mark.slot n ∈ row → n < w.calls.length) ∧ s = row.text id ∧
    t = row.filled (fill w)

theorem shows_corresponds (id : String) {fill : Ledger → Nat → String} (hfill : Lasting fill) :
    Template.Corresponds (Shows id fill) := by
  refine ⟨?_, ?_, ?_⟩
  · rintro w v s t hwv ⟨row, hclean, hslots, hs, ht⟩
    have hlength : w.calls.length ≤ v.calls.length := List.IsPrefix.length_le hwv
    refine ⟨row, hclean, fun n hn => Nat.lt_of_lt_of_le (hslots n hn) hlength, hs, ?_⟩
    rw [ht]
    exact Row.filled_congr fun n hn => (hfill w v n hwv (hslots n hn)).symm
  · intro w s hs
    refine ⟨Row.ofText s, Row.clean_ofText hs, ?_, (Row.text_ofText id s).symm,
      (Row.filled_ofText _ s).symm⟩
    intro n hn
    exact absurd hn (Row.slot_notMem_ofText n s)
  · rintro w s t s' t' ⟨row, hclean, hslots, rfl, rfl⟩ ⟨more, hclean', hslots', rfl, rfl⟩
    refine ⟨row ++ more, Row.clean_append hclean hclean', ?_, (Row.text_append id row more).symm,
      (Row.filled_append _ row more).symm⟩
    intro n hn
    exact (List.mem_append.mp hn).elim (hslots n) (hslots' n)

/-- The place of the call that was put off last. -/
theorem shows_last (id : String) {fill : Ledger → Nat → String} {calls : List Pending} {c : Pending}
    {t : String} (ht : fill ⟨calls ++ [c]⟩ calls.length = t) :
    Shows id fill ⟨calls ++ [c]⟩ (placeholder id calls.length) t := by
  refine ⟨[.slot calls.length], ?_, ?_, (Row.text_slot _ _).symm, ?_⟩
  · intro hmem
    cases List.mem_singleton.mp hmem
  · intro n hn
    cases List.mem_singleton.mp hn
    rw [List.length_append, List.length_singleton]
    exact Nat.lt_succ_self _
  · rw [Row.filled_slot, ht]

/-- Without calls, a row holds no places. -/
theorem shows_of_nil {id : String} {fill : Ledger → Nat → String} {w : Ledger} {a b : String}
    (h : Shows id fill w a b) (hcalls : w.calls = []) : a = b ∧ tainted b.toList = false := by
  obtain ⟨row, hclean, hslots, rfl, rfl⟩ := h
  have hnone : ∀ n, Mark.slot n ∉ row := by
    intro n hn
    have hlength := hslots n hn
    rw [hcalls] at hlength
    exact absurd hlength (Nat.not_lt_zero n)
  have htext : row.text id = row.filled (placeholder id) := rfl
  refine ⟨?_, Row.tainted_filled hclean fun n hn => absurd hn (hnone n)⟩
  rw [htext]
  exact Row.filled_congr fun n hn => absurd hn (hnone n)

/-! ## Calls that are put off -/

/-- The name of a call: its own, or else that of its helper. -/
def calledName (helpers : List Helper) (name : String) (i : Nat) : String :=
  if name.isEmpty then (helpers[i]?).elim "" (·.name) else name

/-- A registry of an id to which calls were put off, in order. -/
structure Defers (id : String) (q : Nat) (calls : List Pending) (a : Activity) : Prop where
  room : q < a.registries.length
  owner : (a.registry q).id = id
  issued : (a.registry q).issued = calls.length
  pending : (a.registry q).pending = calls
  numbered : Numbered id calls

/-- A registry that was opened has no calls yet. -/
theorem defers_opened (s : Site) : Defers (s.activity.ids s.activity.registries.length)
    s.activity.registries.length [] s.opened.activity where
  room := s.room_opened
  owner := congrArg Registry.id s.registry_opened
  issued := congrArg Registry.issued s.registry_opened
  pending := congrArg Registry.pending s.registry_opened
  numbered := nofun

/-- A call that is put off gets the next placeholder. -/
theorem Defers.register {id : String} {q : Nat} {calls : List Pending} {a : Activity}
    (h : Defers id q calls a) (name : String) (i : Nat) (args : List Value) (kwargs : Locals) :
    (a.register q name i args kwargs).1 = placeholder id calls.length ∧
      Defers id q
        (calls ++ [⟨placeholder id calls.length, calledName a.helpers name i, i, args, kwargs⟩])
        (a.register q name i args kwargs).2 := by
  have hregister : a.register q name i args kwargs =
      (((a.registry q).register (calledName a.helpers name i) i args kwargs).1,
        a.setRegistry q ((a.registry q).register (calledName a.helpers name i) i args kwargs).2) :=
    rfl
  rw [hregister]
  generalize calledName a.helpers name i = known
  have htoken : ((a.registry q).register known i args kwargs).1 = placeholder id calls.length := by
    rw [Registry.register]
    dsimp only
    rw [h.owner, h.issued]
  have hregistry : (a.setRegistry q ((a.registry q).register known i args kwargs).2).registry q =
      ((a.registry q).register known i args kwargs).2 :=
    Activity.registry_setRegistry_self _ _ _ h.room
  have hpending := Registry.register_pending (a.registry q) known i args kwargs
  have hissued := Registry.register_issued (a.registry q) known i args kwargs
  refine ⟨htoken, ?_, ?_, ?_, ?_, h.numbered.push rfl⟩
  · show q < (a.registries.set q _).length
    rw [List.length_set]
    exact h.room
  · rw [hregistry]
    exact h.owner
  · rw [hregistry, hissued, h.issued, List.length_append, List.length_singleton]
  · rw [hregistry, hpending, h.pending, h.owner, h.issued]

/-! ## The names of templates -/

/-- What global names stand for: a deferred helper is one, data is plain, and a name that does not
exist prints nothing. -/
def globalKinds (globals : Locals) : Kinds := fun n =>
  match globals.get? n with
  | none => some .plain
  | some (.function (.deferred _ _)) => some .helper
  | some v => if v.isPlain then some .plain else none

/-- What the names of a page stand for. Options hide global names. -/
def pageKinds (globals options : Locals) : Kinds := fun n =>
  match options.get? n with
  | some v => if v.isPlain then some .plain else none
  | none => globalKinds globals n

/-- What the names of a layout stand for. -/
def layoutKinds (globals options : Locals) : Kinds := fun n =>
  if n = "body" then some .content else pageKinds globals options n

section Relations

variable {W : Type} {F : Value → Value → Prop} {T : W → String → String → Prop}
  {globals globals' : Locals} (h : ∀ w n,
    (globalKinds globals).Relates F T w n (globals.get? n) (globals'.get? n))

include h

/-- The names of a page. -/
theorem page_relate {options : Locals} (hkeys : (options.map (·.1)).Nodup) (w : W) (n : String) :
    (pageKinds globals options).Relates F T w n ((globals.update options).get? n)
      ((globals'.update options).get? n) := by
  intro kind hkind
  rw [Locals.get?_update, Locals.get?_update, Locals.lookup_reverse hkeys]
  rw [pageKinds] at hkind
  cases hvalue : options.get? n with
  | none =>
    rw [hvalue] at hkind
    exact h w n kind hkind
  | some v =>
    rw [hvalue] at hkind
    dsimp only at hkind
    split at hkind
    · next hv =>
      cases hkind
      exact .some ⟨rfl, hv⟩
    · cases hkind

/-- The names of a layout, over contents that correspond. -/
theorem layout_relate {options : Locals} (hkeys : (options.map (·.1)).Nodup) {w : W} {s t : String}
    (hst : T w s t) (n : String) :
    (layoutKinds globals options).Relates F T w n
      ((globals.update (options.set "body" (.markup s))).get? n)
      ((globals'.update (options.set "body" (.markup t))).get? n) := by
  intro kind hkind
  rw [layoutKinds] at hkind
  have hbody : ∀ u : String, ((options.set "body" (.markup u)).map (·.1)).Nodup :=
    fun u => Locals.nodup_set hkeys _ _
  rw [Locals.get?_update, Locals.get?_update, Locals.lookup_reverse (hbody s),
    Locals.lookup_reverse (hbody t)]
  split at hkind
  · next hn =>
    cases hkind
    rw [hn, Locals.get?_set_self, Locals.get?_set_self]
    exact .some ⟨s, t, rfl, rfl, hst⟩
  · next hn =>
    rw [Locals.get?_set_of_ne _ _ hn, Locals.get?_set_of_ne _ _ hn]
    have hpage := page_relate h hkeys w n kind hkind
    rwa [Locals.get?_update, Locals.get?_update, Locals.lookup_reverse hkeys] at hpage

end Relations

/-- Whatever a name includes that the shape allows fits the shape. -/
def IncludesFit (shape : Shape) (e : Engine) : Prop :=
  ∀ name kinds e' t, shape.includes name kinds → e.load name = .ok (e', some t) →
    AllFit shape kinds t.body

/-- The templates that a render may keep: pages and layouts of the shape for its engine. -/
def FitsShape (shape : Shape) (e : Nat) (globals options : Locals) (space : Space) (_ : String)
    (c : Compiled) : Prop :=
  c.engine = e ∧
    AllFit shape
      (match space with
        | .file => pageKinds globals options
        | .layout => layoutKinds globals options)
      c.template.body

/-- A render of templates of a shape, on an engine whose cache holds no others. -/
structure Fitting (shape : Shape) (r : Request) (s : Site) : Prop where
  engine : r.engine < s.engines.length
  options : r.options < s.options.length
  keys : ((s.optionsAt r.options).map (·.1)).Nodup
  cache : ∀ space key c, ((Space.text space, key), c) ∈ (s.cacheOf r.engine).entries →
    FitsShape shape r.engine (s.engine r.engine).globals (s.optionsAt r.options) space key c
  globals : shape.globals = globalKinds (s.engine r.engine).globals
  page : ∀ source template, s.files.readText (.ofText r.path) = .ok source →
    Template.compile (s.engine r.engine).autoescape none source = .ok template →
      AllFit shape (pageKinds (s.engine r.engine).globals (s.optionsAt r.options)) template.body
  layout : ∀ name path source template,
    FindsLayout s.files (s.optionsAt r.options) (extension r.path) name path →
    s.files.readText (.ofText path.text) = .ok source →
    Template.compile (s.engine r.engine).autoescape none source = .ok template →
      AllFit shape (layoutKinds (s.engine r.engine).globals (s.optionsAt r.options)) template.body
  includes : IncludesFit shape (s.engine r.engine)

/-! ## Sites in step -/

/-- What two sites have in common while a render goes on, compared to the site where it began: the
second one has `globals'` for the globals of the engine, `options` and `options'` are what the
templates see, and `A` relates what the helpers do. -/
structure Paired (r : Request) (s₀ : Site) (globals' options options' : Locals)
    (Kept : Space → String → Compiled → Prop) (A : Ledger → Activity → Activity → Prop)
    (w : Ledger) (s t : Site) : Prop where
  files : s.files = s₀.files ∧ t.files = s₀.files
  alike : (s.engine r.engine).Alike (s₀.engine r.engine) ∧
    (t.engine r.engine).Alike (s₀.engine r.engine)
  globals : (s.engine r.engine).globals = (s₀.engine r.engine).globals ∧
    (t.engine r.engine).globals = globals'
  options : s.optionsAt r.options = options ∧ t.optionsAt r.options = options'
  room : r.options < s.options.length ∧ r.options < t.options.length
  caches : s.caches = t.caches
  kept : ∀ space key c, ((Space.text space, key), c) ∈ (s.cacheOf r.engine).entries →
    Kept space key c
  activity : A w s.activity t.activity

/-- What one site prints for the helpers of an engine and what the other does in their place. Calls
of the first are put off to registry `q`, those of the second are within registry `p`. -/
structure Counterparts (globals globals' : Locals) (id : String) (fill : Ledger → Nat → String)
    (q p : Nat) (F : Value → Value → Prop) (A : Ledger → Activity → Activity → Prop) : Prop where
  lasting : Lasting fill
  globals : ∀ w n, (globalKinds globals).Relates F (Shows id fill) w n (globals.get? n)
    (globals'.get? n)
  call : ∀ {a b}, F a b → ∃ f g, a = .function f ∧ b = .function g ∧ ∀ w args kwargs,
    Lockstep A (fun v x y => ∃ s t, x = .markup s ∧ y = .markup t ∧ Shows id fill v s t) w
      (callNow (some q) f args kwargs) (callNow (some p) g args kwargs)

variable {shape : Shape} {r : Request} {s₀ : Site} {globals' options options' : Locals}
  {Kept : Space → String → Compiled → Prop} {A : Ledger → Activity → Activity → Prop}
  {id : String} {fill : Ledger → Nat → String} {q p : Nat} {F : Value → Value → Prop}
  {w : Ledger} {s t : Site}

namespace Paired

/-- Engines may count and remember. -/
theorem setEngine (h : Paired r s₀ globals' options options' Kept A w s t) {d d' : Engine}
    (hd : d.Alike (s.engine r.engine) ∧ d.globals = (s.engine r.engine).globals)
    (hd' : d'.Alike (t.engine r.engine) ∧ d'.globals = (t.engine r.engine).globals) :
    Paired r s₀ globals' options options' Kept A w (s.setEngine r.engine d)
      (t.setEngine r.engine d') := by
  have hs := s.alike_setEngine hd r.engine
  have ht := t.alike_setEngine hd' r.engine
  have hcache : (s.setEngine r.engine d).cacheOf r.engine = s.cacheOf r.engine := by
    rw [Site.cacheOf, Site.cacheOf, hs.1.cache]
    rfl
  exact
    { h with
      alike := ⟨hs.1.trans h.alike.1, ht.1.trans h.alike.2⟩
      globals := ⟨hs.2.trans h.globals.1, ht.2.trans h.globals.2⟩
      kept := fun space key c hmem => h.kept space key c (hcache ▸ hmem) }

theorem cacheOf (h : Paired r s₀ globals' options options' Kept A w s t) :
    s.cacheOf r.engine = t.cacheOf r.engine := by
  rw [Site.cacheOf, Site.cacheOf, h.caches, h.alike.1.cache, h.alike.2.cache]

/-- A template that may be kept is kept. -/
theorem keeps (h : Paired r s₀ globals' options options' Kept A w s t) {space : Space}
    {key : String} {c : Compiled} (hc : Kept space key c) (enabled : Bool) :
    Paired r s₀ globals' options options' Kept A w
      (s.setCacheOf r.engine ((s.cacheOf r.engine).put (Space.text space) key c enabled).2)
      (t.setCacheOf r.engine ((s.cacheOf r.engine).put (Space.text space) key c enabled).2) := by
  generalize hput : ((s.cacheOf r.engine).put (Space.text space) key c enabled).2 = cache
  have hentries : ∀ space' key' c', ((Space.text space', key'), c') ∈ cache.entries →
      Kept space' key' c' := by
    intro space' key' c' hmem
    rw [← hput] at hmem
    rcases Cache.mem_put hmem with hmem | heq
    · exact h.kept space' key' c' hmem
    · obtain ⟨hkeys, rfl⟩ := Prod.mk.inj heq
      obtain ⟨hspace, rfl⟩ := Prod.mk.inj hkeys
      rw [Space.text_injective hspace]
      exact hc
  refine
    { h with
      caches := ?_
      kept := ?_ }
  · show s.caches.set (s.engine r.engine).cache cache = t.caches.set (t.engine r.engine).cache cache
    rw [h.caches, h.alike.1.cache, h.alike.2.cache]
  · intro space' key' c' hmem
    have hcache : (s.setCacheOf r.engine cache).cacheOf r.engine =
        ((s.caches.set (s.engine r.engine).cache cache)[(s.engine r.engine).cache]?).getD {} := rfl
    rw [hcache, List.getElem?_set] at hmem
    split at hmem
    · split at hmem
      · exact hentries space' key' c' hmem
      · cases hmem
    · next hne => exact absurd rfl hne

/-- Both keep their contents under `body`. -/
theorem setOption (h : Paired r s₀ globals' options options' Kept A w s t) (name : String)
    (a b : Value) :
    Paired r s₀ globals' (options.set name a) (options'.set name b) Kept A w
      (s.setOption r.options name a) (t.setOption r.options name b) := by
  refine
    { h with
      options := ⟨?_, ?_⟩
      room := ⟨?_, ?_⟩ }
  · rw [s.optionsAt_setOption_self _ _ _ h.room.1, h.options.1]
  · rw [t.optionsAt_setOption_self _ _ _ h.room.2, h.options.2]
  · rw [Site.setOption, List.length_set]
    exact h.room.1
  · rw [Site.setOption, List.length_set]
    exact h.room.2

/-- What both activities do in step, both sites do. -/
theorem onActivity_lockstep {α : Type} {R : Ledger → α → α → Prop} {x y : Action Activity α}
    (h : Lockstep A R w x y) :
    Lockstep (Paired r s₀ globals' options options' Kept A) R w (onActivity x) (onActivity y) := by
  intro s t hst
  obtain ⟨v, hwv, hactivity, hend⟩ := h _ _ hst.activity
  exact ⟨v, hwv, { hst with activity := hactivity }, hend⟩

end Paired

/-- Both load the same template. -/
theorem loadFor_corresponds (hincludes : IncludesFit shape (s₀.engine r.engine)) (w : Ledger)
    {name : String} {kinds : Kinds} (hname : shape.includes name kinds) :
    Lockstep (Paired r s₀ globals' options options' Kept A)
      (fun _ a b => a = b ∧ ∀ t : Template, a = some t → AllFit shape kinds t.body) w
      (loadFor r.engine name) (loadFor r.engine name) := by
  intro s t hst
  rw [loadFor, loadFor]
  obtain ⟨f, hs, ht⟩ | ⟨x, y, hs, ht, hfound⟩ :=
    (hst.alike.1.trans hst.alike.2.symm).load_cases name
  · rw [hs, ht]
    exact ⟨w, le_refl w, hst, .error _⟩
  · obtain ⟨f, hs', -⟩ | ⟨x', z, hs', hz, hsame⟩ := hst.alike.1.load_cases name
    · cases hs.symm.trans hs'
    cases hs.symm.trans hs'
    rw [hs, ht]
    refine ⟨w, le_refl w, hst.setEngine (Engine.alike_of_load hs) (Engine.alike_of_load ht),
      .ok ⟨hfound, fun included hincluded => ?_⟩⟩
    refine hincludes name kinds z.1 included hname ?_
    rw [hz, ← hincluded, hsame]

/-- The hosts of both sites correspond. -/
theorem host_corresponds
    (hcounterparts : Counterparts (s₀.engine r.engine).globals globals' id fill q p F A)
    (hglobals : shape.globals = globalKinds (s₀.engine r.engine).globals)
    (hincludes : IncludesFit shape (s₀.engine r.engine))
    (hst : Paired r s₀ globals' options options' Kept A w s t) :
    Host.Corresponds (Paired r s₀ globals' options options' Kept A) F (Shows id fill) shape
      (hostFor r.engine (s.engine r.engine) (some q))
      (hostFor r.engine (t.engine r.engine) (some p)) := by
  refine ⟨hst.alike.1.autoescape.trans hst.alike.2.autoescape.symm, ?_, ?_, ?_⟩
  · intro v n
    have hs : (hostFor r.engine (s.engine r.engine) (some q)).globals =
        (s₀.engine r.engine).globals := hst.globals.1
    have ht : (hostFor r.engine (t.engine r.engine) (some p)).globals = globals' := hst.globals.2
    rw [hglobals, hs, ht]
    exact hcounterparts.globals v n
  · intro v a b args hab
    obtain ⟨f, g, rfl, rfl, hcall⟩ := hcounterparts.call hab
    exact Paired.onActivity_lockstep (hcall v args.args args.kwargs)
  · exact fun v name kinds hname => loadFor_corresponds hincludes v hname

/-- Both run a template of the shape over related names. -/
theorem execute_corresponds
    (hcounterparts : Counterparts (s₀.engine r.engine).globals globals' id fill q p F A)
    (hglobals : shape.globals = globalKinds (s₀.engine r.engine).globals)
    (hincludes : IncludesFit shape (s₀.engine r.engine)) {kinds : Kinds} {c : Compiled}
    (hengine : c.engine = r.engine) (hfit : AllFit shape kinds c.template.body) {w : Ledger}
    (hnames : ∀ n, kinds.Relates F (Shows id fill) w n
      (((s₀.engine r.engine).globals.update options).get? n) ((globals'.update options').get? n))
    (name : String) :
    Lockstep (Paired r s₀ globals' options options' Kept A) (Shows id fill) w
      (execute r q c name) (execute r p c name) := by
  intro s t hst
  have hhost := host_corresponds hcounterparts hglobals hincludes hst
  have hs : (hostFor r.engine (s.engine r.engine) (some q)).globals =
      (s₀.engine r.engine).globals := hst.globals.1
  have ht : (hostFor r.engine (t.engine r.engine) (some p)).globals = globals' := hst.globals.2
  obtain ⟨v, hwv, hst', hend⟩ := runWithin_corresponds hhost
    (shows_corresponds id hcounterparts.lasting) includeDepth w kinds c.template _ _ hfit hnames
    s t hst
  rw [execute_apply, execute_apply, Compiled.run, Compiled.run, hengine, hst.options.1,
    hst.options.2, Template.run, Template.run, hs, ht]
  revert hst' hend
  generalize c.template.runWithin (hostFor r.engine (s.engine r.engine) (some q)) _ _ s = x
  generalize c.template.runWithin (hostFor r.engine (t.engine r.engine) (some p)) _ _ t = y
  obtain ⟨ex, s'⟩ := x
  obtain ⟨ey, t'⟩ := y
  intro hst' hend
  dsimp only at hend
  refine ⟨v, hwv, ?_⟩
  cases hend with
  | ok hab => exact ⟨hst', .ok hab⟩
  | error e =>
    cases e with
    | fault f => exact ⟨hst', .error _⟩
    | cancelled message => exact ⟨hst', .error _⟩

/-- The page in its layout is one row for both. -/
theorem pageText_corresponds
    (hcounterparts : Counterparts (s₀.engine r.engine).globals globals' id fill q p F A)
    (hfitting : Fitting shape r s₀) {layout : Option Wrapping} {page : Compiled}
    (hpage : FitsShape shape r.engine (s₀.engine r.engine).globals (s₀.optionsAt r.options) .file
      r.path page)
    (hlayout : ∀ l : Wrapping, layout = some l → ∃ name, FitsShape shape r.engine
      (s₀.engine r.engine).globals (s₀.optionsAt r.options) .layout name l.compiled)
    (hst : Paired r s₀ globals' (s₀.optionsAt r.options) (s₀.optionsAt r.options) Kept A w s t) :
    ∃ v seen seen', Paired r s₀ globals' seen seen' Kept A v
        (pageText r q layout page s).2 (pageText r p layout page t).2 ∧
      SameEnd (Shows id fill v) (pageText r q layout page s).1 (pageText r p layout page t).1 := by
  have hglobals := hfitting.globals
  have hincludes := hfitting.includes
  have hnames := fun n => page_relate hcounterparts.globals hfitting.keys w n
  obtain ⟨v, -, hst', hend⟩ := execute_corresponds hcounterparts hglobals hincludes hpage.1 hpage.2
    hnames r.path s t hst
  rw [pageText, pageText, bind_apply, bind_apply]
  revert hst' hend
  generalize execute r q page r.path s = x
  generalize execute r p page r.path t = y
  obtain ⟨ex, s'⟩ := x
  obtain ⟨ey, t'⟩ := y
  intro hst' hend
  dsimp only at hst' hend
  cases hend with
  | error e => exact ⟨v, _, _, hst', .error e⟩
  | @ok content content' hcontent =>
    cases layout with
    | none => exact ⟨v, _, _, hst', .ok hcontent⟩
    | some l =>
      obtain ⟨name, hl⟩ := hlayout l rfl
      have hbody := hst'.setOption "body" (.markup content) (.markup content')
      have hnames' := fun n => layout_relate hcounterparts.globals hfitting.keys hcontent n
      obtain ⟨u, -, hst'', hend'⟩ := execute_corresponds hcounterparts hglobals hincludes hl.1 hl.2
        hnames' l.name _ _ hbody
      exact ⟨u, _, _, hst'', hend'⟩

namespace Fitting

/-- What both sites of a render have in common up to its page. -/
abbrev Pair (shape : Shape) (r : Request) (s : Site) (globals' : Locals)
    (A : Ledger → Activity → Activity → Prop) : Ledger → Site → Site → Prop :=
  Paired r s globals' (s.optionsAt r.options) (s.optionsAt r.options)
    (FitsShape shape r.engine (s.engine r.engine).globals (s.optionsAt r.options)) A

theorem mirror (h : Fitting shape r s) (globals' : Locals)
    (A : Ledger → Activity → Activity → Prop) :
    Mirror r s.files (s.engine r.engine).autoescape (s.optionsAt r.options)
      (FitsShape shape r.engine (s.engine r.engine).globals (s.optionsAt r.options))
      (Pair shape r s globals' A) := by
  refine ⟨fun hst => hst.files, ?_, ?_, fun hst => hst.cacheOf, ?_, ?_, ?_, ?_, ?_, ?_⟩
  · exact fun hst => ⟨hst.alike.1.autoescape, hst.alike.2.autoescape⟩
  · intro w t u name hst _
    rw [hst.options.1, hst.options.2]
    exact ⟨rfl, rfl⟩
  · exact fun hst hget => hst.kept _ _ _ (Cache.mem_of_get? hget)
  · exact fun _ _ hst => { hst with }
  · exact fun hst => hst.setEngine ⟨Engine.alike_compiles _ _, rfl⟩ ⟨Engine.alike_compiles _ _, rfl⟩
  · exact fun hst hc => hst.keeps hc _
  · exact fun hread hcompile => ⟨rfl, h.page _ _ hread hcompile⟩
  · exact fun hfind hread hcompile => ⟨rfl, h.layout _ _ _ _ hfind hread hcompile⟩

/-- Both sites when their registries are open. -/
theorem opened (h : Fitting shape r s) (hfiles : t.files = s.files)
    (halike : (t.engine r.engine).Alike (s.engine r.engine)) (hoptions : t.options = s.options)
    (hcaches : t.caches = s.caches) (hactivity : A w s.opened.activity t.opened.activity) :
    Pair shape r s (t.engine r.engine).globals A w s.opened t.opened := by
  have hsame : t.optionsAt r.options = s.optionsAt r.options := by
    rw [Site.optionsAt, Site.optionsAt, hoptions]
  exact
    { files := ⟨rfl, hfiles⟩
      alike := ⟨.refl _, halike⟩
      globals := ⟨rfl, rfl⟩
      options := ⟨rfl, hsame⟩
      room := ⟨h.options, hoptions ▸ h.options⟩
      caches := hcaches.symm
      kept := h.cache
      activity := hactivity }

end Fitting
end DeferredViews.View
