import DeferredViews.Deferred.Helper
import DeferredViews.Deferred.Placeholder

/-!
# Registries and what helpers do

A registry belongs to one render. It issues placeholders, remembers under which name each was
issued, and keeps the calls that are still to be started, in order. The activity of all renders
holds the registries, the helpers, and the events in the order in which they happened.
-/
namespace DeferredViews.Deferred

/-- A call that was put off. -/
structure Pending where
  token : String
  name : String
  helper : Nat
  args : List Value
  kwargs : Locals

structure Registry where
  id : String
  /-- The number of placeholders issued so far. -/
  issued : Nat := 0
  pending : List Pending := []
  /-- The name under which each placeholder was issued. -/
  names : List (String × String) := []

namespace Registry

/-- Put off a call: its placeholder, and the registry with the call pending. -/
def register (r : Registry) (name : String) (helper : Nat) (args : List Value)
    (kwargs : Locals) : String × Registry :=
  let token := placeholder r.id r.issued
  (token,
    { r with
      issued := r.issued + 1
      pending := r.pending ++ [⟨token, name, helper, args, kwargs⟩]
      names := r.names ++ [(token, name)] })

/-- The placeholders whose calls are pending. -/
def tokens (r : Registry) : List String := r.pending.map (·.token)

/-- The name under which a placeholder was issued. -/
def helperName (r : Registry) (token : String) : String :=
  (r.names.lookup token).getD "<unknown>"

/-- Take all pending calls. -/
def take (r : Registry) : List Pending × Registry := (r.pending, { r with pending := [] })

@[simp] theorem register_pending (r : Registry) (name : String) (helper : Nat)
    (args : List Value) (kwargs : Locals) :
    (r.register name helper args kwargs).2.pending =
      r.pending ++ [⟨placeholder r.id r.issued, name, helper, args, kwargs⟩] := rfl

@[simp] theorem register_issued (r : Registry) (name : String) (helper : Nat)
    (args : List Value) (kwargs : Locals) :
    (r.register name helper args kwargs).2.issued = r.issued + 1 := rfl

@[simp] theorem take_pending (r : Registry) : r.take.2.pending = [] := rfl

end Registry

/-- What a helper has done. -/
inductive Event where
  | started (name : String)
  | resumed (name : String)
  | cancelled (name : String)
  deriving DecidableEq, Repr

structure Activity where
  /-- The id of each registry, by the order in which they are opened. -/
  ids : Nat → String
  helpers : List Helper := []
  /-- The helpers that were started, in order. -/
  starts : List Nat := []
  events : List Event := []
  registries : List Registry := []

namespace Activity

/-- Make a helper known. -/
def addHelper (a : Activity) (h : Helper) : Nat × Activity :=
  (a.helpers.length, { a with helpers := a.helpers ++ [h] })

/-- Open a registry. -/
def openRegistry (a : Activity) : Nat × Activity :=
  (a.registries.length,
    { a with registries := a.registries ++ [{ id := a.ids a.registries.length }] })

def registry (a : Activity) (r : Nat) : Registry := a.registries[r]?.getD { id := "" }

theorem registry_congr {a b : Activity} (h : b.registries = a.registries) (r : Nat) :
    b.registry r = a.registry r := by
  rw [registry, registry, h]

def setRegistry (a : Activity) (r : Nat) (value : Registry) : Activity :=
  { a with registries := a.registries.set r value }

theorem registry_setRegistry_self (a : Activity) (r : Nat) (value : Registry)
    (h : r < a.registries.length) : (a.setRegistry r value).registry r = value := by
  simp [registry, setRegistry, h]

theorem registry_setRegistry_of_ne (a : Activity) {r q : Nat} (value : Registry) (h : r ≠ q) :
    (a.setRegistry r value).registry q = a.registry q := by
  simp [registry, setRegistry, List.getElem?_set_ne h]

theorem registry_setRegistry (a : Activity) (r : Nat) (value : Registry) :
    (a.setRegistry r value).registry r = value ∨
      (a.setRegistry r value).registry r = a.registry r := by
  by_cases h : r < a.registries.length
  · exact .inl (a.registry_setRegistry_self r value h)
  · refine .inr ?_
    rw [setRegistry, List.set_eq_of_length_le (Nat.le_of_not_lt h)]

def record (a : Activity) (e : Event) : Activity := { a with events := a.events ++ [e] }

/-- Put off a call. Without a name of its own the call has the name of its helper. -/
def register (a : Activity) (r : Nat) (name : String) (helper : Nat) (args : List Value)
    (kwargs : Locals) : String × Activity :=
  let name := if name.isEmpty then ((a.helpers[helper]?).elim "" (·.name)) else name
  let (token, registry) := (a.registry r).register name helper args kwargs
  (token, a.setRegistry r registry)

/-- Put off a call to the registry in scope; the answer is its placeholder. -/
def putOff (a : Activity) (scope : Option Nat) (name : String) (helper : Nat)
    (args : List Value) (kwargs : Locals) : Except Fault String × Activity :=
  match scope with
  | none => (.error .noRenderInProgress, a)
  | some r =>
    let (token, a) := a.register r name helper args kwargs
    (.ok token, a)

/-- Outside of any scope nothing changes. -/
@[simp] theorem putOff_none (a : Activity) (name : String) (helper : Nat) (args : List Value)
    (kwargs : Locals) :
    a.putOff none name helper args kwargs = (.error .noRenderInProgress, a) := rfl

/-- Note that a helper's body starts: how often it had started before. -/
def start (a : Activity) (helper : Nat) (h : Helper) : Nat × Activity :=
  (a.starts.count helper,
    { a with starts := a.starts ++ [helper], events := a.events ++ [.started h.name] })

end Activity

/-- What a body answers at once: a finished value, an interrupt, or nothing ever. -/
inductive Answer where
  | value (v : Value)
  | interrupt (i : Interrupt)
  | never

/-- The answer of a body. A call that it puts off goes to the registry in scope. -/
def answer (scope : Option Nat) (reply : Reply) (a : Activity) : Answer × Activity :=
  match reply with
  | .value v => (.value v, a)
  | .fault f => (.interrupt (.fault f), a)
  | .cancelled message => (.interrupt (.cancelled message), a)
  | .hang => (.never, a)
  | .defer helper args kwargs wrap =>
    match a.putOff scope "" helper args kwargs with
    | (.ok token, a) => (.value (wrap token), a)
    | (.error f, a) => (.interrupt (.fault f), a)

/-- Call a function from a template: a helper on the spot, or a placeholder for a call that is put
off to the registry in scope. -/
def callNow (scope : Option Nat) (f : Callable) (args : List Value) (kwargs : Locals) :
    Action Activity Value := do
  match f with
  | .deferred name helper => do
    let (result, a) := (← get).putOff scope name helper args kwargs
    set a
    return .markup (← .ofExcept result)
  | .immediate helper => do
    match (← get).helpers[helper]? with
    | none => return .null
    | some h =>
      if h.isTask then return .str ("<coroutine object " ++ h.name ++ ">")
      else
        let (earlier, a) := (← get).start helper h
        let (result, a) := answer scope (h.body ⟨args, kwargs, earlier⟩) a
        set a
        match result with
        | .value v => return v
        | .interrupt i => throw i
        | .never => return .null

end DeferredViews.Deferred
