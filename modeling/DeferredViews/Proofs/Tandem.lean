import DeferredViews.Proofs.Locals
import DeferredViews.Proofs.Plans
import DeferredViews.Proofs.Running

/-!
# A render among others and alone

While a render has its turn, nothing else goes on. It then does on a site that other renders have
used before what it would do alone, on another registry with the same id: it issues the same
placeholders, prints the same texts and stops with the same failures. Of what others may look at it
changes only its registry, the `body` of its options, and what engines count and remember.
-/
namespace DeferredViews

/-- Nothing but the value of `body` is different. -/
def Locals.Bodied (l m : Locals) : Prop := m = l ∨ ∃ v, m = l.set "body" v

theorem Locals.Bodied.set {l m : Locals} (h : l.Bodied m) (v : Value) :
    m.set "body" v = l.set "body" v := by
  rcases h with rfl | ⟨w, rfl⟩
  · rfl
  · exact Locals.set_set l "body" w v

theorem Locals.Bodied.trans {l m n : Locals} (h : l.Bodied m) (k : m.Bodied n) : l.Bodied n := by
  rcases k with rfl | ⟨v, rfl⟩
  · exact h
  · exact .inr ⟨v, h.set v⟩

theorem Locals.Bodied.get? {l m : Locals} (h : l.Bodied m) {name : String} (hname : name ≠ "body") :
    m.get? name = l.get? name := by
  rcases h with rfl | ⟨v, rfl⟩
  · rfl
  · exact l.get?_set_of_ne v hname

end DeferredViews

namespace DeferredViews.Deferred

/-- What a helper answers depends on the arguments alone. -/
def Repeats (helpers : List Helper) : Prop :=
  ∀ h ∈ helpers, ∀ args kwargs m n, h.body ⟨args, kwargs, m⟩ = h.body ⟨args, kwargs, n⟩

/-- Two activities that go on alike in registries of their own, the first one from `b` on. -/
structure Twins (q p : Nat) (b x y : Activity) : Prop where
  helpers : x.helpers = b.helpers ∧ y.helpers = b.helpers
  ids : x.ids = b.ids
  length : x.registries.length = b.registries.length
  others : ∀ n, n ≠ q → x.registry n = b.registry n
  record : x.registry q = y.registry p
  room : q < x.registries.length ∧ p < y.registries.length
  names : (x.registry q).names = (x.registry q).pending.map fun c => (c.token, c.name)

namespace Twins

variable {q p : Nat} {b x y : Activity}

theorem start (h : Twins q p b x y) (i : Nat) (helper : Helper) :
    Twins q p b (x.start i helper).2 (y.start i helper).2 := { h with }

/-- Both put off a call with the same placeholder. -/
theorem register (h : Twins q p b x y) (name : String) (i : Nat) (args : List Value)
    (kwargs : Locals) :
    (x.register q name i args kwargs).1 = (y.register p name i args kwargs).1 ∧
      Twins q p b (x.register q name i args kwargs).2 (y.register p name i args kwargs).2 := by
  rw [Activity.register, Activity.register, h.helpers.1, h.helpers.2, ← h.record]
  generalize (if name.isEmpty then (b.helpers[i]?).elim "" (·.name) else name) = known
  have hx := x.registry_setRegistry_self q ((x.registry q).register known i args kwargs).2 h.room.1
  have hy := y.registry_setRegistry_self p ((x.registry q).register known i args kwargs).2 h.room.2
  refine ⟨rfl, { h with length := ?_, others := ?_, record := ?_, room := ?_, names := ?_ }⟩
  · simpa [Activity.setRegistry] using h.length
  · intro n hn
    show (x.setRegistry q _).registry n = _
    rw [x.registry_setRegistry_of_ne _ (Ne.symm hn), h.others n hn]
  · exact hx.trans hy.symm
  · simpa [Activity.setRegistry] using h.room
  · show ((x.setRegistry q _).registry q).names = ((x.setRegistry q _).registry q).pending.map _
    rw [hx]
    simp [Registry.register, h.names]

theorem answer (h : Twins q p b x y) (reply : Reply) :
    (Deferred.answer (some q) reply x).1 = (Deferred.answer (some p) reply y).1 ∧
      Twins q p b (Deferred.answer (some q) reply x).2 (Deferred.answer (some p) reply y).2 := by
  cases reply with
  | defer i args kwargs wrap =>
    obtain ⟨htoken, hnext⟩ := h.register "" i args kwargs
    refine ⟨?_, hnext⟩
    show Answer.value (wrap (x.register q "" i args kwargs).1) = _
    rw [htoken]
    rfl
  | _ => exact ⟨rfl, h⟩

/-- A template that calls a function gets the same from both. -/
theorem callNow (h : Twins q p b x y) (hrepeats : Repeats b.helpers) (f : Callable)
    (args : List Value) (kwargs : Locals) :
    (Deferred.callNow (some q) f args kwargs x).1 = (Deferred.callNow (some p) f args kwargs y).1 ∧
      Twins q p b (Deferred.callNow (some q) f args kwargs x).2
        (Deferred.callNow (some p) f args kwargs y).2 := by
  cases f with
  | deferred name i =>
    obtain ⟨htoken, hnext⟩ := h.register name i args kwargs
    rw [callNow_deferred, callNow_deferred, htoken]
    exact ⟨rfl, hnext⟩
  | immediate i =>
    rw [callNow_immediate, callNow_immediate, h.helpers.1, h.helpers.2]
    cases hi : b.helpers[i]? with
    | none => exact ⟨rfl, h⟩
    | some helper =>
      have hbody := hrepeats helper (List.mem_of_getElem? hi) args kwargs (x.start i helper).1
        (y.start i helper).1
      have hanswer := (h.start i helper).answer (helper.body ⟨args, kwargs, (y.start i helper).1⟩)
      dsimp only
      rw [hbody]
      split
      · exact ⟨rfl, h⟩
      · revert hanswer
        generalize Deferred.answer (some q) _ _ = a
        generalize Deferred.answer (some p) _ _ = a'
        obtain ⟨result, x'⟩ := a
        obtain ⟨result', y'⟩ := a'
        rintro ⟨hresult, hnext⟩
        dsimp only at hresult
        subst hresult
        cases result <;> exact ⟨rfl, hnext⟩

end Twins
end DeferredViews.Deferred

namespace DeferredViews.View

open Deferred Template Files

/-- A site that differs from `s` only in what renders without caching leave behind. -/
structure Site.Kin (s t : Site) : Prop where
  files : t.files = s.files
  engines : ∀ d, (t.engine d).Alike (s.engine d) ∧ (t.engine d).globals = (s.engine d).globals
  caches : t.caches = s.caches
  room : t.options.length = s.options.length

/-- What a turn of a render may do to a site: it fills the registry of the render, or opens it, and
sets the `body` of its options. -/
structure Spares (r : Request) (s : Site) (q : Nat) (b t : Site) : Prop where
  kin : s.Kin t
  helpers : t.activity.helpers = b.activity.helpers
  ids : t.activity.ids = b.activity.ids
  length : b.activity.registries.length ≤ t.activity.registries.length
  others : ∀ n, n < b.activity.registries.length → n ≠ q →
    t.activity.registry n = b.activity.registry n
  options : ∀ o, o ≠ r.options → t.optionsAt o = b.optionsAt o
  own : (b.optionsAt r.options).Bodied (t.optionsAt r.options)

/-- A render that others run beside and the same render alone, in a turn that began at `b`: `q` and
`p` are the registries, `l` and `m` the options of the render. -/
structure Tandem (r : Request) (s b : Site) (q p : Nat) (l m : Locals) (t a : Site) : Prop where
  kin : s.Kin t ∧ s.Kin a
  activity : Twins q p b.activity t.activity a.activity
  options : t.optionsAt r.options = l ∧ a.optionsAt r.options = m
  others : ∀ o, o ≠ r.options → t.optionsAt o = b.optionsAt o

namespace Site.Kin

variable {s t : Site}

theorem cacheOf (h : s.Kin t) (e : Nat) : t.cacheOf e = s.cacheOf e := by
  rw [Site.cacheOf, Site.cacheOf, h.caches, (h.engines e).1.cache]

/-- Engines may count and remember. -/
theorem setEngine (h : s.Kin t) {e : Nat} {d : Engine}
    (hd : d.Alike (t.engine e) ∧ d.globals = (t.engine e).globals) : s.Kin (t.setEngine e d) := by
  refine { h with engines := fun n => ?_ }
  have hn := t.alike_setEngine hd n
  exact ⟨hn.1.trans (h.engines n).1, hn.2.trans (h.engines n).2⟩

theorem setOption (h : s.Kin t) (o : Nat) (name : String) (v : Value) :
    s.Kin (t.setOption o name v) := by
  refine { h with room := ?_ }
  simpa [Site.setOption] using h.room

/-- Where nothing is kept the caches stay. -/
theorem setCacheOf (h : s.Kin t) (e : Nat) : s.Kin (t.setCacheOf e (t.cacheOf e)) := by
  have hcaches : t.caches.set (t.engine e).cache (t.cacheOf e) = t.caches := by
    apply List.ext_getElem?
    intro n
    rw [List.getElem?_set]
    split
    · next hn =>
      subst hn
      split
      · next hlength => simp [Site.cacheOf, hlength]
      · next hlength => simp [Nat.le_of_not_lt hlength]
    · rfl
  exact { h with caches := hcaches.trans h.caches }

end Site.Kin

/-- The template of the page of a render. -/
def IsPage (r : Request) (s : Site) (c : Compiled) : Prop :=
  (s.cacheOf r.engine).get? Space.file.text r.path = some c ∨
    ∃ source template, s.files.readText (.ofText r.path) = .ok source ∧
      Template.compile (s.engine r.engine).autoescape none source = .ok template ∧
      c = ⟨r.engine, template⟩

/-- The page of a render does not read `body`. -/
def IgnoresBody (r : Request) (s : Site) : Prop :=
  ∀ c, IsPage r s c → ∀ scope v t, s.Kin t →
    c.run scope ((s.optionsAt r.options).set "body" v) t = c.run scope (s.optionsAt r.options) t

/-- Options that a render may find: its own, or with a `body` that it does not read. -/
def Finds (r : Request) (s : Site) (l : Locals) : Prop :=
  l = s.optionsAt r.options ∨ (IgnoresBody r s ∧ ∃ v, l = (s.optionsAt r.options).set "body" v)

theorem Finds.bodied {r : Request} {s : Site} {l : Locals} (h : Finds r s l) :
    (s.optionsAt r.options).Bodied l := by
  rcases h with rfl | ⟨-, v, rfl⟩
  · exact .inl rfl
  · exact .inr ⟨v, rfl⟩

/-- A `body` written by others is not read either. -/
theorem Finds.bodied_of_ignores {r : Request} {s : Site} {l m : Locals} (h : Finds r s l)
    (hignores : IgnoresBody r s) (k : l.Bodied m) : Finds r s m := by
  rcases h.bodied.trans k with rfl | ⟨v, rfl⟩
  · exact .inl rfl
  · exact .inr ⟨hignores, v, rfl⟩

/-- The page prints over these options what it prints over its own. -/
theorem Finds.run_eq {r : Request} {s t : Site} {l : Locals} (h : Finds r s l) {c : Compiled}
    (hc : IsPage r s c) (ht : s.Kin t) (scope : Option Nat) :
    c.run scope l t = c.run scope (s.optionsAt r.options) t := by
  rcases h with rfl | ⟨hignores, v, rfl⟩
  · rfl
  · exact hignores c hc scope v t ht

namespace Tandem

variable {r : Request} {s b t a : Site} {q p : Nat} {l m : Locals}

/-- What the turn so far has done. -/
theorem spares (h : Tandem r s b q p l m t a) (hl : (b.optionsAt r.options).Bodied l) :
    Spares r s q b t where
  kin := h.kin.1
  helpers := h.activity.helpers.1
  ids := h.activity.ids
  length := Nat.le_of_eq h.activity.length.symm
  others n _ hn := h.activity.others n hn
  options := h.others
  own := h.options.1 ▸ hl

theorem setEngine (h : Tandem r s b q p l m t a) {e : Nat} {d d' : Engine}
    (hd : d.Alike (t.engine e) ∧ d.globals = (t.engine e).globals)
    (hd' : d'.Alike (a.engine e) ∧ d'.globals = (a.engine e).globals) :
    Tandem r s b q p l m (t.setEngine e d) (a.setEngine e d') :=
  { h with kin := ⟨h.kin.1.setEngine hd, h.kin.2.setEngine hd'⟩ }

theorem setOption (h : Tandem r s b q p l m t a) (hroom : r.options < s.options.length)
    (name : String) (v : Value) :
    Tandem r s b q p (l.set name v) (m.set name v) (t.setOption r.options name v)
      (a.setOption r.options name v) := by
  refine { h with kin := ?_, options := ?_, others := ?_ }
  · exact ⟨h.kin.1.setOption r.options name v, h.kin.2.setOption r.options name v⟩
  · rw [← h.options.1, ← h.options.2]
    rw [← h.kin.1.room] at hroom
    have ht := t.optionsAt_setOption_self r.options name v hroom
    rw [h.kin.1.room, ← h.kin.2.room] at hroom
    exact ⟨ht, a.optionsAt_setOption_self r.options name v hroom⟩
  · intro o ho
    rw [t.optionsAt_setOption_of_ne name v (Ne.symm ho), h.others o ho]

/-- Over the same locals, both print the same. -/
theorem run (h : Tandem r s b q p l m t a) (hrepeats : Repeats b.activity.helpers) (c : Compiled)
    (locals : Locals) :
    (c.run (some q) locals t).1 = (c.run (some p) locals a).1 ∧
      Tandem r s b q p l m (c.run (some q) locals t).2 (c.run (some p) locals a).2 := by
  refine run_alike (I := Tandem r s b q p l m) ?_ ?_ ?_ c locals h
  · intro t a h e
    have hengine := h.kin.1.engines e
    have hengine' := h.kin.2.engines e
    exact ⟨hengine.1.trans hengine'.1.symm, hengine.2.trans hengine'.2.symm⟩
  · exact fun _ _ _ _ _ h hd hd' => h.setEngine hd hd'
  · intro f args kwargs t a h
    obtain ⟨hresult, hactivity⟩ := h.activity.callNow hrepeats f args kwargs
    exact ⟨hresult,
      { h with kin := ⟨{ h.kin.1 with }, { h.kin.2 with }⟩, activity := hactivity }⟩

/-- A template over the options of the render, where these make no difference to it. -/
theorem execute (h : Tandem r s b q p l m t a) (hrepeats : Repeats b.activity.helpers)
    {c : Compiled} (hc : c.run (some q) l t = c.run (some q) m t) (name : String) :
    (View.execute r q c name t).1 = (View.execute r p c name a).1 ∧
      Tandem r s b q p l m (View.execute r q c name t).2 (View.execute r p c name a).2 := by
  refine execute_of_run (J := Tandem r s b q p l m) name ?_
  rw [h.options.1, h.options.2, hc]
  exact h.run hrepeats c m

/-- Both bring the same page together, each with the content of its own in the layout. -/
theorem pageText (h : Tandem r s b q p l (s.optionsAt r.options) t a)
    (hrepeats : Repeats b.activity.helpers) (hroom : r.options < s.options.length)
    (hl : Finds r s l) {page : Compiled} (hpage : IsPage r s page) (layout : Option Wrapping) :
    ∃ l' m', (s.optionsAt r.options).Bodied l' ∧ l.Bodied l' ∧
      Tandem r s b q p l' m' (View.pageText r q layout page t).2
        (View.pageText r p layout page a).2 ∧
      (View.pageText r q layout page t).1 = (View.pageText r p layout page a).1 := by
  obtain ⟨hresult, hnext⟩ := h.execute hrepeats (hl.run_eq hpage h.kin.1 (some q)) r.path
  rw [View.pageText, View.pageText, bind_apply, bind_apply]
  revert hresult hnext
  generalize View.execute r q page r.path t = x
  generalize View.execute r p page r.path a = y
  obtain ⟨result, t'⟩ := x
  obtain ⟨result', a'⟩ := y
  intro hresult hnext
  dsimp only at hnext hresult
  subst hresult
  cases result with
  | error e => exact ⟨_, _, hl.bodied, .inl rfl, hnext, rfl⟩
  | ok content =>
    cases layout with
    | none => exact ⟨_, _, hl.bodied, .inl rfl, hnext, rfl⟩
    | some w =>
      have hset := hnext.setOption hroom "body" (.markup content)
      obtain ⟨hresult, hlast⟩ := hset.execute hrepeats
        (congrArg (fun o => w.compiled.run (some q) o _) (hl.bodied.set (.markup content))) w.name
      refine ⟨_, _, ?_, ?_, hlast, hresult⟩
      · exact hl.bodied.trans (.inr ⟨_, rfl⟩)
      · exact .inr ⟨_, rfl⟩

end Tandem
end DeferredViews.View
