import DeferredViews.Value.Compare
import DeferredViews.Value.Text
import DeferredViews.Text.Search

/-!
# Items, length, membership and elements

A text is a sequence of one-character texts, a mapping one of its keys; an absent value is empty.
-/
namespace DeferredViews.Value

open Text

/-- The one-character texts of a text. -/
def characters (s : String) : List Value := s.toList.map fun c => str (String.singleton c)

/-- The items that a loop over the value visits. -/
def items : Value → Except Fault (List Value)
  | str s => .ok (characters s)
  | markup s => .ok (characters s)
  | list xs => .ok xs
  | tuple xs => .ok xs
  | view _ xs => .ok xs
  | dict es => .ok (es.map (·.1))
  | absent _ => .ok []
  | v => .error (.type (.notIterable v.typeName))

/-- The items from the last to the first; not every iterable has them. Read backward, markup gives
markup. -/
def itemsBackward (v : Value) : Except Fault (List Value) :=
  match v, v.items with
  | markup s, _ => .ok (s.toList.reverse.map fun c => markup (String.singleton c))
  | _, .ok xs => .ok xs.reverse
  | _, .error _ => .error (.type (.notReversible v.typeName))

def length : Value → Except Fault Nat
  | str s => .ok s.length
  | markup s => .ok s.length
  | list xs => .ok xs.length
  | tuple xs => .ok xs.length
  | view _ xs => .ok xs.length
  | dict es => .ok es.length
  | loop _ n => .ok n
  | absent _ => .ok 0
  | v => .error (.type (.noLength v.typeName))

/-- Whether a value is a member of a container. -/
def member (v container : Value) : Except Fault Bool :=
  match container with
  | str s | markup s =>
    match v.text? with
    | some t => .ok (occurs t.toList s.toList)
    | none => .error (.type (.memberOfText v.typeName))
  | dict es =>
    if v.hashable then .ok (find? es v).isSome
    else .error (.type (.unhashable v.typeName))
  | list xs | tuple xs | view _ xs => .ok (xs.any v.equals)
  | absent _ => .ok false
  | c => .error (.type (.noContainer c.typeName))

/-- The position that an index means in a sequence of `n` items; negative ones count from the end. -/
def position? (n : Nat) (index : Int) : Option Nat :=
  if 0 ≤ index then (if index.toNat < n then some index.toNat else none)
  else if index.natAbs ≤ n then some (n - index.natAbs)
  else none

/-- The bounds of a slice, clamped to the sequence: for a positive step from `start` up to `stop`,
for a negative one down to it. -/
def sliceIndices (n : Nat) (start stop step : Option Int) : Option (List Nat) :=
  let step := step.getD 1
  if step = 0 then none
  else
    let clamp (low high : Int) (i : Int) : Int :=
      let i := if i < 0 then i + n else i
      max low (min high i)
    let size : Int := n
    let (low, high) : Int × Int := if 0 < step then (0, size) else (-1, size - 1)
    let first := match start with
      | some i => clamp low high i
      | none => if 0 < step then low else high
    let last := match stop with
      | some i => clamp low high i
      | none => if 0 < step then high else low
    let reach : Int := if 0 < step then last - first else first - last
    let count : Nat := if reach ≤ 0 then 0 else ((reach - 1) / (step.natAbs : Int) + 1).toNat
    some ((List.range count).map fun (k : Nat) => (first + step * k).toNat)

/-- An optional bound of a slice. -/
def bound? : Value → Option (Option Int)
  | null => some none
  | v => v.toInt?.map some

/-- The part of a sequence that a slice selects. -/
def sliceOf {α : Type} (xs : List α) (start stop step : Value) : Option (List α) := do
  let a ← start.bound?
  let b ← stop.bound?
  let c ← step.bound?
  let indices ← sliceIndices xs.length a b c
  some (indices.filterMap (xs[·]?))

/-- The element of a value under a key; none if there is none. -/
def element? (v key : Value) : Option Value :=
  match v, key with
  | dict es, k => if k.hashable then find? es k else none
  | list xs, slice a b c => (sliceOf xs a b c).map list
  | tuple xs, slice a b c => (sliceOf xs a b c).map tuple
  | str s, slice a b c => (sliceOf s.toList a b c).map (str <| String.ofList ·)
  | markup s, slice a b c => (sliceOf s.toList a b c).map (markup <| String.ofList ·)
  | v, k => do
    let index ← k.toInt?
    match v with
    | list xs | tuple xs => do xs[← position? xs.length index]?
    | str s => do
      let c ← s.toList[← position? s.toList.length index]?
      some (str (String.singleton c))
    | markup s => do
      let c ← s.toList[← position? s.toList.length index]?
      some (markup (String.singleton c))
    | _ => none

end DeferredViews.Value
