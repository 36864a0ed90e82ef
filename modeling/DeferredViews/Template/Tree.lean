import DeferredViews.Value.Arithmetic

/-!
# The tree of a template

Expressions, the targets of assignments, and statements, as the template writes them. A template
is a list of statements, literal text among them.
-/
namespace DeferredViews.Template

/-- The relations that a comparison chain may use. -/
inductive Relation where
  | eq
  | ne
  | order (op : Value.OrderOp)
  | member
  | notMember
  deriving DecidableEq, Repr

mutual

inductive Expr where
  | const (v : Value)
  | name (n : String)
  | tuple (items : List Expr)
  | list (items : List Expr)
  | dict (entries : List (Expr × Expr))
  | attr (e : Expr) (name : String)
  | element (e key : Expr)
  | slice (start stop step : Option Expr)
  | call (f : Expr) (args : List Arg)
  | filter (e : Expr) (name : String) (args : List Arg)
  | test (e : Expr) (name : String) (args : List Arg)
  | not (e : Expr)
  | sign (negative : Bool) (e : Expr)
  | arithmetic (op : Value.ArithmeticOp) (a b : Expr)
  | concat (parts : List Expr)
  | compare (first : Expr) (rest : List (Relation × Expr))
  | and (a b : Expr)
  | or (a b : Expr)
  /-- A conditional expression, with the line on which it starts. -/
  | cond (line : Nat) (test yes : Expr) (no : Option Expr)

/-- An argument of a call: by position, by keyword, or many at once from a list or mapping. -/
inductive Arg where
  | value (e : Expr)
  | keyword (name : String) (e : Expr)
  | spread (e : Expr)
  | spreadKeywords (e : Expr)

end

instance : Inhabited Expr := ⟨.const .null⟩

/-- What an assignment or a loop binds. -/
inductive Target where
  | name (n : String)
  | tuple (items : List Target)
  deriving Repr, Inhabited

inductive Stmt where
  | text (s : String)
  | print (e : Expr)
  /-- The branches with their conditions, and what happens when none holds. -/
  | choose (branches : List (Expr × List Stmt)) (otherwise : List Stmt)
  | each (target : Target) (source : Expr) (condition : Option Expr) (body otherwise : List Stmt)
  | assign (target : Target) (e : Expr)
  | capture (target : Target) (body : List Stmt)
  | embed (template : Expr) (ignoreMissing withContext : Bool)

/-- The names that a target binds, in order. -/
def Target.names : Target → List String
  | .name n => [n]
  | .tuple items => namesOf items
where
  namesOf : List Target → List String
    | [] => []
    | t :: more => t.names ++ namesOf more

/-- The word for a kind of expression in the complaint that it cannot be assigned to. -/
def Expr.kindWord : Expr → String
  | const _ => "const"
  | name _ => "name"
  | tuple _ => "tuple"
  | list _ => "list"
  | dict _ => "dict"
  | attr .. => "getattr"
  | element .. => "getitem"
  | slice .. => "slice"
  | call .. => "call"
  | filter .. => "filter"
  | test .. => "test"
  | not _ => "not"
  | sign true _ => "neg"
  | sign false _ => "pos"
  | arithmetic .add .. => "add"
  | arithmetic .sub .. => "sub"
  | arithmetic .mul .. => "mul"
  | arithmetic .div .. => "div"
  | arithmetic .floorDiv .. => "floordiv"
  | arithmetic .mod .. => "mod"
  | arithmetic .pow .. => "pow"
  | concat _ => "concat"
  | compare .. => "compare"
  | and .. => "and"
  | or .. => "or"
  | cond .. => "condexpr"

/-- Names and tuples of targets can be assigned to. -/
def Expr.target? : Expr → Option Target
  | .name n => some (.name n)
  | .tuple items => (targets? items).map .tuple
  | _ => none
where
  targets? : List Expr → Option (List Target)
    | [] => some []
    | e :: more => do
      let t ← e.target?
      let ts ← targets? more
      some (t :: ts)

end DeferredViews.Template
