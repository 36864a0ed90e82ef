import DeferredViews.Number.Shortest

/-!
# Values

What options, locals, configuration files and helpers hold, and what template expressions compute:
scalars, text, lists, mappings in insertion order, and the few values that exist only while a page
is rendered (helper functions, methods, loop state, absent values).
-/
namespace DeferredViews

open Number

/-- Why a value is absent: the name, attribute or element that was looked up in vain. -/
inductive Missing where
  | name (name : String)
  | member (owner : String) (name : String)
  | element (owner : String) (key : String)
  | noFirst
  | noLast
  /-- A conditional expression without an `else` part, at the given place. -/
  | noElse (place : String)
  deriving DecidableEq, Repr

/-- A function that templates can call: a helper called on the spot, or one whose call is put off
to the end of the render and stands for its result until then. -/
inductive Callable where
  | immediate (helper : Nat)
  | deferred (name : String) (helper : Nat)
  deriving DecidableEq, Repr

/-- A calendar day. -/
structure Day where
  year : Nat
  month : Nat
  day : Nat
  deriving DecidableEq, Repr

/-- A day with a time of day, in microseconds, and possibly a distance from UTC in minutes. -/
structure Moment where
  day : Day
  hour : Nat
  minute : Nat
  second : Nat
  micro : Nat
  zone : Option Int
  deriving DecidableEq, Repr

inductive Value where
  | null
  | bool (b : Bool)
  | int (n : Int)
  | float (x : Double)
  | str (s : String)
  /-- Text that is already HTML and is never escaped again. -/
  | markup (s : String)
  | list (items : List Value)
  | tuple (items : List Value)
  /-- A mapping; the keys are pairwise different and keep the order of their first insertion. -/
  | dict (entries : List (Value × Value))
  | day (d : Day)
  | moment (m : Moment)
  | function (f : Callable)
  | method (owner : Value) (name : String)
  /-- The keys, values or items of a mapping. -/
  | view (name : String) (items : List Value)
  /-- The state of a loop: the index of the current item and the number of items. -/
  | loop (index : Nat) (length : Nat)
  /-- A half-open range of indices. -/
  | slice (start stop step : Value)
  | absent (why : Missing)
  deriving Repr, Inhabited

/-- A mapping from texts, the form of options and locals. -/
abbrev Locals := List (String × Value)

namespace Value

/-- The name of a value's type, as error messages give it. -/
def typeName : Value → String
  | null => "NoneType"
  | bool _ => "bool"
  | int _ => "int"
  | float _ => "float"
  | str _ => "str"
  | markup _ => "Markup"
  | list _ => "list"
  | tuple _ => "tuple"
  | dict _ => "dict"
  | day _ => "datetime.date"
  | moment _ => "datetime.datetime"
  | function _ => "function"
  | method .. => "builtin_function_or_method"
  | view name _ => name
  | loop .. => "LoopContext"
  | slice .. => "slice"
  | absent _ => "Undefined"

/-- How a message about a missing attribute or element names the value that lacks it. -/
def ownerName : Value → String
  | null => "None"
  | markup _ => "markupsafe.Markup object"
  | day _ => "datetime.date object"
  | moment _ => "datetime.datetime object"
  | loop .. => "jinja2.runtime.LoopContext object"
  | v => v.typeName ++ " object"

/-- Absent values, `None`, false, zero and whatever is empty count as false. -/
def truthy : Value → Bool
  | null => false
  | bool b => b
  | int n => n != 0
  | float x => !x.isZero
  | str s => !s.isEmpty
  | markup s => !s.isEmpty
  | list items => !items.isEmpty
  | tuple items => !items.isEmpty
  | dict entries => !entries.isEmpty
  | view _ items => !items.isEmpty
  | loop _ length => length != 0
  | absent _ => false
  | day _ | moment _ | function _ | method .. | slice .. => true

/-- The text of a text or markup. -/
def text? : Value → Option String
  | str s => some s
  | markup s => some s
  | _ => none

def isMarkup : Value → Bool
  | markup _ => true
  | _ => false

def isAbsent : Value → Bool
  | absent _ => true
  | _ => false

/-- The integer that an integer or a truth value stands for. -/
def toInt? : Value → Option Int
  | int n => some n
  | bool b => some (if b then 1 else 0)
  | _ => none

end Value

namespace Locals

/-- The value of a name. -/
def get? (l : Locals) (name : String) : Option Value := List.lookup name l

def contains (l : Locals) (name : String) : Bool := (l.get? name).isSome

/-- Bind a name: a known name keeps its place, a new one is added at the end. -/
def set (l : Locals) (name : String) (v : Value) : Locals :=
  match l with
  | [] => [(name, v)]
  | (k, w) :: rest => if name = k then (k, v) :: rest else (k, w) :: set rest name v

def erase (l : Locals) (name : String) : Locals := l.filter (·.1 ≠ name)

/-- Bind every name of `more`, in order. -/
def update (l more : Locals) : Locals := more.foldl (fun l (k, v) => l.set k v) l

@[simp] theorem get?_nil (name : String) : get? [] name = none := rfl

theorem get?_set_self (l : Locals) (name : String) (v : Value) :
    (l.set name v).get? name = some v := by
  induction l with
  | nil => simp [set, get?]
  | cons e l ih =>
    obtain ⟨k, w⟩ := e
    by_cases h : name = k
    · simp [set, h, get?]
    · have : (name == k) = false := by simp [h]
      simpa [set, h, get?, List.lookup_cons, this] using ih

theorem get?_set_of_ne (l : Locals) {name other : String} (v : Value) (h : other ≠ name) :
    (l.set name v).get? other = l.get? other := by
  induction l with
  | nil =>
    have : (other == name) = false := by simp [h]
    simp [set, get?, List.lookup_cons, this]
  | cons e l ih =>
    obtain ⟨k, w⟩ := e
    by_cases hk : name = k
    · subst hk
      have : (other == name) = false := by simp [h]
      simp [set, get?, List.lookup_cons, this]
    · simp only [set, hk, ↓reduceIte, get?, List.lookup_cons]
      cases (other == k)
      · simpa [get?] using ih
      · rfl

end Locals

end DeferredViews
