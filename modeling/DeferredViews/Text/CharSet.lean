/-!
# Sets of characters

A set is given by its edges: the ascending code points at which membership changes, from outside
to inside and back. A character belongs to the set when an odd number of edges lie at or below it.
-/
namespace DeferredViews.Text

structure CharSet where
  edges : List Nat
  deriving DecidableEq, Repr

/-- Membership flips at each edge at or below the code point. -/
def inside : List Nat → Nat → Bool
  | [], _ => false
  | e :: rest, n => if n < e then false else !inside rest n

def CharSet.contains (s : CharSet) (c : Char) : Bool := inside s.edges c.toNat

end DeferredViews.Text
