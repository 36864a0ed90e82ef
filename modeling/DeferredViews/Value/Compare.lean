import DeferredViews.Fault

/-!
# Equality and order of values

Numbers are equal across types when they are equal as numbers; a text equals the markup with the
same characters; lists and tuples go element by element; mappings ignore order. Only numbers,
texts, lists and tuples are ordered.
-/
namespace DeferredViews

open Number

namespace Value

/-- A number: an integer or a double. -/
inductive Numeric where
  | int (n : Int)
  | float (x : Double)
  deriving DecidableEq, Repr

def numeric? : Value → Option Numeric
  | int n => some (.int n)
  | bool b => some (.int (if b then 1 else 0))
  | float x => some (.float x)
  | _ => none

/-- The order of two numbers; none if one of them is not a number at all. -/
def Numeric.order : Numeric → Numeric → Option Ordering
  | .int a, .int b => some (compare a b)
  | .int a, .float y => (y.compareInt a).map Ordering.swap
  | .float x, .int b => x.compareInt b
  | .float x, .float y => x.compareTo y

mutual

/-- Equality of values. -/
def equals : Value → Value → Bool
  | null, null => true
  | bool a, w => match numeric? w with
    | some n => Numeric.order (.int (if a then 1 else 0)) n == some .eq
    | none => false
  | int a, w => match numeric? w with
    | some n => Numeric.order (.int a) n == some .eq
    | none => false
  | float a, w => match numeric? w with
    | some n => Numeric.order (.float a) n == some .eq
    | none => false
  | str a, w => w.text? == some a
  | markup a, w => w.text? == some a
  | list xs, list ys => equalsList xs ys
  | tuple xs, tuple ys => equalsList xs ys
  | dict es, dict fs => es.length == fs.length && equalsEntries es fs
  | day a, day b => a == b
  | moment a, moment b => a == b
  | function a, function b => a == b
  | view n xs, view m ys => n == m && equalsList xs ys
  | absent _, absent _ => true
  | _, _ => false

def equalsList : List Value → List Value → Bool
  | [], [] => true
  | x :: xs, y :: ys => equals x y && equalsList xs ys
  | _, _ => false

/-- Every entry of the first mapping has an equal entry in the second. -/
def equalsEntries : List (Value × Value) → List (Value × Value) → Bool
  | [], _ => true
  | (k, v) :: more, fs => fs.any (fun (l, w) => equals k l && equals v w) && equalsEntries more fs

end

/-- Lists, mappings and the like cannot be keys. -/
def hashable : Value → Bool
  | list _ | dict _ | view .. | slice .. => false
  | tuple items => hashableAll items
  | _ => true
where
  hashableAll : List Value → Bool
    | [] => true
    | v :: more => hashable v && hashableAll more

/-- The value of a key in a mapping. -/
def find? (entries : List (Value × Value)) (key : Value) : Option Value :=
  (entries.find? fun (k, _) => key.equals k).map (·.2)

/-- Bind a key: an equal key keeps its place and its own form. -/
def insert (key v : Value) : List (Value × Value) → List (Value × Value)
  | [] => [(key, v)]
  | (k, w) :: more => if key.equals k then (k, v) :: more else (k, w) :: insert key v more

def ofEntries (entries : List (Value × Value)) : Value :=
  dict (entries.foldl (fun d (k, v) => insert k v d) [])

/-- The four order relations. -/
inductive OrderOp where
  | lt
  | le
  | gt
  | ge
  deriving DecidableEq, Repr

def OrderOp.symbol : OrderOp → String
  | .lt => "<"
  | .le => "<="
  | .gt => ">"
  | .ge => ">="

def OrderOp.accepts : OrderOp → Ordering → Bool
  | .lt, o => o == .lt
  | .le, o => o != .gt
  | .gt, o => o == .gt
  | .ge, o => o != .lt

def unordered (op : OrderOp) (a b : Value) : Fault :=
  match a, b with
  | absent why, _ => .undefined why
  | _, absent why => .undefined why
  | _, _ => .type (.order op.symbol a.typeName b.typeName)

mutual

/-- Whether an order relation holds between two values. -/
def ordered (op : OrderOp) (a b : Value) : Except Fault Bool :=
  match a, b with
  | list xs, list ys => orderedLists op xs ys
  | tuple xs, tuple ys => orderedLists op xs ys
  | a, b =>
    match a.numeric?, b.numeric? with
    | some m, some n => .ok ((Numeric.order m n).any op.accepts)
    | _, _ =>
      match a.text?, b.text? with
      | some s, some t => .ok (op.accepts (compare s t))
      | _, _ => .error (unordered op a b)

/-- The first pair of unequal elements decides; without one, the lengths do. -/
def orderedLists (op : OrderOp) : List Value → List Value → Except Fault Bool
  | [], ys => .ok (op.accepts (compare 0 ys.length))
  | _ :: _, [] => .ok (op.accepts .gt)
  | x :: xs, y :: ys => if equals x y then orderedLists op xs ys else ordered op x y

end

end Value
end DeferredViews
