import DeferredViews.Text.Lines
import DeferredViews.Value.Compare
import DeferredViews.Yaml.Node

/-!
# The value of a document

Merge keys take the entries of other mappings into a mapping, whose own entries win. The value of
a node is then made of the values of its parts; a key that occurs again replaces the earlier value
and keeps its place. What is wrong with a document is looked for level by level, from its root
down, and in order on each level.
-/
namespace DeferredViews.Yaml

/-! ## Merge keys -/

namespace Node

def isMergeKey : Node → Bool
  | scalar t _ | sequence t _ | mapping t _ => t = .merge
  | cycle => false

/-- A key for a default value is a text like any other. -/
def plainKey : Node → Node
  | scalar .value s => scalar .str s
  | n => n

/-- The entries that a mapping gives to another one. -/
def entries? : Node → Option (List (Node × Node))
  | mapping _ es => some es
  | cycle => some []
  | _ => none

/-- The entries that the value of a merge key gives: those of a mapping, or of several, the first
of which counts most. -/
def offered? : Node → Option (List (Node × Node))
  | sequence _ items => (items.mapM entries?).map fun ess => ess.reverse.flatten
  | n => n.entries?

/-- The entries of a mapping after a merge: those taken in, then its own. Merge keys that offer
nothing stay, in front. -/
def joinMerges (es : List (Node × Node)) : List (Node × Node) :=
  let (merges, own) := es.partition (·.1.isMergeKey)
  merges.filter (·.2.offered?.isNone) ++ merges.flatMap (·.2.offered?.getD []) ++
    own.map fun (k, v) => (k.plainKey, v)

end Node

mutual

/-- A node with all its merge keys carried out. -/
def Node.merged : Node → Node
  | .scalar t s => .scalar t s
  | .sequence t items => .sequence t (mergedItems items)
  | .mapping t es => .mapping t (Node.joinMerges (mergedEntries es))
  | .cycle => .cycle

def mergedItems : List Node → List Node
  | [] => []
  | n :: more => n.merged :: mergedItems more

def mergedEntries : List (Node × Node) → List (Node × Node)
  | [] => []
  | (k, v) :: more => (k.merged, v.merged) :: mergedEntries more

end

/-! ## Faults -/

namespace Node

def isCollection : Node → Bool
  | scalar .. => false
  | _ => true

/-- What is wrong with a node itself: a scalar has a value, and a collection is tagged as one. -/
def check : Node → Except Fault Unit
  | scalar t s => (t.scalarValue s).map fun _ => ()
  | sequence t _ | mapping t _ =>
    if t = .seq ∨ t = .map then .ok () else .error (.malformed "a collection is no scalar")
  | cycle => .ok ()

def checkKey (k : Node) : Except Fault Unit := do
  k.check
  if k.isCollection then .error (.malformed "a collection is no key") else .ok ()

/-- What is wrong right inside a node, or else the collections that stand there. -/
def inner : Node → Except Fault (List Node)
  | sequence .map _ => .error (.malformed "a sequence is no mapping")
  | mapping .seq _ => .error (.malformed "a mapping is no sequence")
  | sequence _ items => do
    items.forM check
    .ok (items.filter isCollection)
  | mapping _ es => do
    es.forM fun (k, v) => do
      k.checkKey
      v.check
    .ok ((es.map (·.2)).filter isCollection)
  | _ => .ok []

/-- What is wrong on a level and below. -/
def checkLevels : Nat → List Node → Except Fault Unit
  | 0, _ => .ok ()
  | _, [] => .ok ()
  | depth + 1, level => do checkLevels depth (← level.mapM inner).flatten

end Node

/-! ## Values -/

mutual

/-- The value of a node without merge keys. -/
def Node.value : Node → Except Fault Value
  | .scalar t s => t.scalarValue s
  | .sequence _ items => do .ok (.list (← itemValues items))
  | .mapping _ es => do .ok (Value.ofEntries (← entryValues es))
  | .cycle => .error .tooDeep

def itemValues : List Node → Except Fault (List Value)
  | [] => .ok []
  | n :: more => do
    let v ← n.value
    .ok (v :: (← itemValues more))

def entryValues : List (Node × Node) → Except Fault (List (Value × Value))
  | [] => .ok []
  | (k, v) :: more => do
    let k ← k.value
    let v ← v.value
    .ok ((k, v) :: (← entryValues more))

end

/-- The value of the document in a text; null if there is none. -/
def read (s : String) : Except Fault Value := do
  let s := Text.unifyLineEnds s.toList
  match ← Node.ofText? s with
  | none => .ok .null
  | some node => do
    let node := node.merged
    node.check
    Node.checkLevels (s.length + 1) [node]
    node.value

end DeferredViews.Yaml
