import DeferredViews.Text.Search

/-!
# Paths

A path is a row of names after a root, which is empty for a relative path. Empty names and single
points say nothing and are dropped; double points are kept, since what they mean depends on the
files.
-/
namespace DeferredViews.Files

open Text

/-- Where a path starts: at the working directory, at the root, or at the root written with
exactly two slashes. -/
inductive Root where
  | relative
  | absolute
  | doubled
  deriving DecidableEq, Repr

def Root.text : Root → String
  | .relative => ""
  | .absolute => "/"
  | .doubled => "//"

structure Path where
  root : Root
  names : List String
  deriving DecidableEq, Repr

namespace Path

def rootOf (s : List Char) : Root :=
  match s with
  | '/' :: '/' :: '/' :: _ => .absolute
  | '/' :: '/' :: _ => .doubled
  | '/' :: _ => .absolute
  | _ => .relative

def ofText (s : String) : Path :=
  { root := rootOf s.toList
    names := (splitOn (· == '/') s.toList).filterMap fun n =>
      if n = [] ∨ n = ['.'] then none else some (String.ofList n) }

/-- The text of a path; an empty relative path is a single point. -/
def text (p : Path) : String :=
  if p.root = .relative ∧ p.names = [] then "."
  else p.root.text ++ String.intercalate "/" p.names

/-- Go on from one path along another; an absolute one starts anew. -/
def append (p q : Path) : Path :=
  if q.root = .relative then ⟨p.root, p.names ++ q.names⟩ else q

instance : Append Path := ⟨append⟩

def child (p : Path) (name : String) : Path := ⟨p.root, p.names ++ [name]⟩

/-- The path without its last name. -/
def parent (p : Path) : Path := ⟨p.root, p.names.dropLast⟩

/-- The last name of a path. -/
def name (p : Path) : String := p.names.getLast?.getD ""

/-- Go on from `names`, the last one first, where a double point cancels the name before it. With
no name before it, a double point says nothing at the root and is kept elsewhere. -/
def climb (absolute : Bool) (names : List String) : List String → List String
  | [] => names.reverse
  | n :: more =>
    if n ≠ ".." then climb absolute (n :: names) more
    else
      match names with
      | [] => climb absolute (if absolute then [] else [".."]) more
      | m :: rest => climb absolute (if m = ".." then ".." :: m :: rest else rest) more

/-- The path with double points and the names before them cancelled, without a look at files. -/
def cancelled (p : Path) : Path := ⟨p.root, climb (p.root ≠ .relative) [] p.names⟩

/-- The absolute path that a path means in a working directory. -/
def absolute (here p : Path) : Path := (here ++ p).cancelled

@[simp] theorem append_relative (p : Path) (names : List String) :
    p ++ (⟨.relative, names⟩ : Path) = ⟨p.root, p.names ++ names⟩ := rfl

end Path

/-- Where the last point of a name stands, if it parts the name into a stem and a suffix. -/
def suffixStart? (name : List Char) : Option Nat :=
  match lastIndexOf? '.' name with
  | some i => if 0 < i ∧ i + 1 < name.length then some i else none
  | none => none

/-- A file name without its last suffix. -/
def Path.stem (p : Path) : String :=
  let name := p.name.toList
  match suffixStart? name with
  | some i => String.ofList (name.take i)
  | none => p.name

/-- The last suffix of a file name, with its point. -/
def Path.suffix (p : Path) : String :=
  let name := p.name.toList
  match suffixStart? name with
  | some i => String.ofList (name.drop i)
  | none => ""

/-- The extension of the last name in a text: from its last point on, unless only points come
before that. A point at the end is an extension. -/
def extension (s : String) : String :=
  let name := (splitOn (· == '/') s.toList).getLast?.getD []
  match lastIndexOf? '.' name with
  | some i => if (name.take i).all (· == '.') then "" else String.ofList (name.drop i)
  | none => ""

end DeferredViews.Files
