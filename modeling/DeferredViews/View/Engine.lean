import DeferredViews.Deferred.Settling
import DeferredViews.Template.Evaluate
import DeferredViews.View.Cache
import DeferredViews.View.Failure
import DeferredViews.View.Layout

/-!
# Engines and their site

An engine holds what templates can use: global names, partials, and possibly templates of its own
environment. The site holds the engines with everything they share: files, caches, the options of
the renders, what the helpers do, and the log.
-/
namespace DeferredViews.View

open Deferred Template

/-- An included template that was loaded before: its source, and whether it was a partial. -/
structure Loaded where
  source : String
  isPartial : Bool
  template : Template

structure Engine where
  /-- Whether printed values are escaped. -/
  autoescape : Bool := true
  globals : Locals := []
  /-- The sources of the partials, by name. -/
  partials : List (String × String) := []
  /-- The templates of the engine's own environment, by name. -/
  own : List (String × String) := []
  loaded : List (String × Loaded) := []
  /-- The cache that the engine uses. -/
  cache : Nat
  partialExtensions : List String
  /-- How many seconds to wait for helpers; null waits for ever. -/
  timeout : Value := .null
  /-- How many sources were compiled for pages, layouts and direct use. -/
  compiles : Nat := 0

/-- Bind a name in a list of pairs: a known name keeps its place. -/
def bindName {α : Type} (name : String) (a : α) : List (String × α) → List (String × α)
  | [] => [(name, a)]
  | (n, b) :: more => if name = n then (n, a) :: more else (n, b) :: bindName name a more

theorem lookup_bindName_self {α : Type} (name : String) (a : α) (l : List (String × α)) :
    (bindName name a l).lookup name = some a := by
  induction l with
  | nil => simp [bindName]
  | cons x l ih =>
    obtain ⟨n, b⟩ := x
    by_cases h : name = n
    · simp [bindName, h]
    · have hb : (name == n) = false := by simpa using h
      simp [bindName, h, List.lookup_cons, hb, ih]

theorem lookup_bindName_of_ne {α : Type} {name other : String} (a : α) (l : List (String × α))
    (h : other ≠ name) : (bindName name a l).lookup other = l.lookup other := by
  have hb : (other == name) = false := by simpa using h
  induction l with
  | nil => simp [bindName, List.lookup_cons, hb]
  | cons x l ih =>
    obtain ⟨n, b⟩ := x
    by_cases hn : name = n
    · subst hn
      simp [bindName, List.lookup_cons, hb]
    · simp [bindName, hn, List.lookup_cons, ih]

namespace Engine

def setGlobal (e : Engine) (name : String) (v : Value) : Engine :=
  { e with globals := e.globals.set name v }

def setPartial (e : Engine) (name source : String) : Engine :=
  { e with partials := bindName name source e.partials }

/-- Whether the place where a template was loaded from still has the same source. -/
def isCurrent (e : Engine) (name : String) (l : Loaded) : Bool :=
  (if l.isPartial then e.partials else e.own).lookup name == some l.source

/-- Load a source for inclusion and remember it. -/
def loadSource (e : Engine) (name source : String) (isPartial : Bool) :
    Except SyntaxFault (Engine × Template) := do
  let template ← Template.compile e.autoescape (some name) source
  .ok ({ e with loaded := bindName name ⟨source, isPartial, template⟩ e.loaded }, template)

/-- The template that a name includes: the one loaded before as long as its source is current,
else a partial, else a template of the environment. -/
def load (e : Engine) (name : String) : Except SyntaxFault (Engine × Option Template) :=
  let fresh : Except SyntaxFault (Engine × Option Template) :=
    match e.partials.lookup name with
    | some source => (e.loadSource name source true).map fun (e, t) => (e, some t)
    | none =>
      match e.own.lookup name with
      | some source => (e.loadSource name source false).map fun (e, t) => (e, some t)
      | none => .ok (e, none)
  match e.loaded.lookup name with
  | some l => if e.isCurrent name l then .ok (e, some l.template) else fresh
  | none => fresh

end Engine

/-- A template ready to run, with the engine it was compiled for. -/
structure Compiled where
  engine : Nat
  template : Template

structure Site where
  files : Files.Tree
  engines : List Engine := []
  caches : List (Cache Compiled) := []
  /-- The options of the renders. Several renders may share them. -/
  options : List Locals := []
  activity : Activity
  log : List Log.Record := []

namespace Site

def engine (s : Site) (e : Nat) : Engine :=
  s.engines[e]?.getD { cache := 0, partialExtensions := [] }

def setEngine (s : Site) (e : Nat) (value : Engine) : Site :=
  { s with engines := s.engines.set e value }

theorem engine_setEngine_self (s : Site) (e : Nat) (value : Engine) (h : e < s.engines.length) :
    (s.setEngine e value).engine e = value := by
  simp [engine, setEngine, h]

theorem engine_setEngine_of_ne (s : Site) {e d : Nat} (value : Engine) (h : e ≠ d) :
    (s.setEngine e value).engine d = s.engine d := by
  simp [engine, setEngine, List.getElem?_set_ne h]

theorem engine_setEngine (s : Site) (e : Nat) (value : Engine) :
    (s.setEngine e value).engine e = value ∨ (s.setEngine e value).engine e = s.engine e := by
  by_cases h : e < s.engines.length
  · exact .inl (s.engine_setEngine_self e value h)
  · refine .inr ?_
    have hnone : s.engines[e]? = none := List.getElem?_eq_none (Nat.le_of_not_lt h)
    have hnone' : (s.engines.set e value)[e]? = none :=
      List.getElem?_eq_none (by rw [List.length_set]; exact Nat.le_of_not_lt h)
    rw [engine, engine, setEngine, hnone, hnone']

/-- The cache that an engine uses. -/
def cacheOf (s : Site) (e : Nat) : Cache Compiled := s.caches[(s.engine e).cache]?.getD {}

/-- To replace an engine by one with the same cache changes no cache. -/
theorem cacheOf_setEngine (s : Site) {n : Nat} {d : Engine} (h : d.cache = (s.engine n).cache)
    (e : Nat) : (s.setEngine n d).cacheOf e = s.cacheOf e := by
  have hsame : ((s.setEngine n d).engine e).cache = (s.engine e).cache := by
    by_cases hne : n = e
    · subst hne
      rcases s.engine_setEngine n d with heq | heq
      · rw [heq, h]
      · rw [heq]
    · rw [s.engine_setEngine_of_ne d hne]
  rw [cacheOf, cacheOf, hsame]
  rfl

def setCacheOf (s : Site) (e : Nat) (c : Cache Compiled) : Site :=
  { s with caches := s.caches.set (s.engine e).cache c }

theorem cacheOf_setCacheOf_self (s : Site) {e : Nat} (c : Cache Compiled)
    (h : (s.engine e).cache < s.caches.length) : (s.setCacheOf e c).cacheOf e = c := by
  have hset : (s.setCacheOf e c).cacheOf e =
      ((s.caches.set (s.engine e).cache c)[(s.engine e).cache]?).getD {} := rfl
  rw [hset, List.getElem?_set_self h]
  rfl

theorem cacheOf_setCacheOf (s : Site) (e : Nat) (c : Cache Compiled) :
    (s.setCacheOf e c).cacheOf e = c ∨ (s.setCacheOf e c).cacheOf e = s.cacheOf e := by
  by_cases h : (s.engine e).cache < s.caches.length
  · exact .inl (s.cacheOf_setCacheOf_self c h)
  · refine .inr ?_
    rw [setCacheOf, List.set_eq_of_length_le (Nat.le_of_not_lt h)]

def optionsAt (s : Site) (o : Nat) : Locals := s.options[o]?.getD []

def setOption (s : Site) (o : Nat) (name : String) (v : Value) : Site :=
  { s with options := s.options.set o ((s.optionsAt o).set name v) }

theorem optionsAt_setOption_self (s : Site) (o : Nat) (name : String) (v : Value)
    (h : o < s.options.length) :
    (s.setOption o name v).optionsAt o = (s.optionsAt o).set name v := by
  simp [optionsAt, setOption, h]

theorem optionsAt_setOption_of_ne (s : Site) {o q : Nat} (name : String) (v : Value)
    (h : o ≠ q) : (s.setOption o name v).optionsAt q = s.optionsAt q := by
  simp [optionsAt, setOption, List.getElem?_set_ne h]

/-- Give new options a place. -/
def addOptions (s : Site) (l : Locals) : Nat × Site :=
  (s.options.length, { s with options := s.options ++ [l] })

def note (s : Site) (r : Log.Record) : Site := { s with log := s.log ++ [r] }

/-- Add an engine with a cache of its own. -/
def addEngine (s : Site) (make : Nat → Engine) : Nat × Site :=
  (s.engines.length,
    { s with
      engines := s.engines ++ [make s.caches.length]
      caches := s.caches ++ [{}] })

/-- Add an engine that shares the cache of another one. -/
def addSharing (s : Site) (other : Nat) (make : Nat → Engine) : Nat × Site :=
  (s.engines.length, { s with engines := s.engines ++ [make (s.engine other).cache] })

/-- Make a helper known to an engine as a function that is called on the spot. -/
def registerHelper (s : Site) (e : Nat) (name : String) (h : Helper) : Site :=
  let (id, activity) := s.activity.addHelper h
  { s with activity }.setEngine e
    ((s.engine e).setGlobal name (.function (.immediate id)))

/-- Make a helper known to an engine as a function whose calls are put off. -/
def registerDeferred (s : Site) (e : Nat) (name : String) (h : Helper) : Site :=
  let (id, activity) := s.activity.addHelper h
  { s with activity }.setEngine e
    ((s.engine e).setGlobal name (.function (.deferred name id)))

end Site

/-- Let an action on what the helpers do act on the site. -/
def onActivity {α : Type} (x : Action Activity α) : Action Site α := fun s =>
  let (result, activity) := x s.activity
  (result, { s with activity })

/-- The template that a name includes for an engine. -/
def loadFor (e : Nat) (name : String) : Action Site (Option Template) := fun s =>
  match (s.engine e).load name with
  | .ok (engine, found) => (.ok found, s.setEngine e engine)
  | .error fault => (.error (.fault (.syntaxError fault)), s)

/-- What templates of an engine ask of the site; deferred calls go to the registry in scope. -/
def hostFor (e : Nat) (engine : Engine) (scope : Option Nat) : Host Site where
  autoescape := engine.autoescape
  globals := engine.globals
  call f args kwargs := onActivity (callNow scope f args kwargs)
  load := loadFor e

/-- Run a compiled template over locals. -/
def Compiled.run (c : Compiled) (scope : Option Nat) (locals : Locals) : Action Site String :=
  fun s => c.template.run (hostFor c.engine (s.engine c.engine) scope) locals s

end DeferredViews.View
