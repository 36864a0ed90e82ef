import DeferredViews.Template.Constant

/-!
# Folding constants into the tree

Every constant part of an expression is replaced by its value, the largest parts first. A template
is folded once, when it is compiled.
-/
namespace DeferredViews.Template

/-- The literal that an expression amounts to, if it is constant. -/
def Expr.literal? (autoescape : Bool) (e : Expr) : Option Expr :=
  match e.constant? autoescape with
  | some v => if v.isLiteral then some (.const v) else none
  | none => none

mutual

/-- Replace the constant parts of an expression. -/
def Expr.fold (autoescape : Bool) (e : Expr) : Expr :=
  match e.literal? autoescape with
  | some c => c
  | none =>
    match e with
    | .const v => .const v
    | .name n => .name n
    | .tuple items => .tuple (foldAll autoescape items)
    | .list items => .list (foldAll autoescape items)
    | .dict entries => .dict (foldEntries autoescape entries)
    | .attr e name => .attr (e.fold autoescape) name
    | .element e key => .element (e.fold autoescape) (key.fold autoescape)
    | .slice a b c => .slice (foldBound autoescape a) (foldBound autoescape b)
        (foldBound autoescape c)
    | .call f args => .call (f.fold autoescape) (foldArguments autoescape args)
    | .filter e name args => .filter (e.fold autoescape) name (foldArguments autoescape args)
    | .test e name args => .test (e.fold autoescape) name (foldArguments autoescape args)
    | .not e => .not (e.fold autoescape)
    | .sign negative e => .sign negative (e.fold autoescape)
    | .arithmetic op a b => .arithmetic op (a.fold autoescape) (b.fold autoescape)
    | .concat parts => .concat (foldAll autoescape parts)
    | .compare first rest => .compare (first.fold autoescape) (foldChain autoescape rest)
    | .and a b => .and (a.fold autoescape) (b.fold autoescape)
    | .or a b => .or (a.fold autoescape) (b.fold autoescape)
    | .cond line test yes no =>
      .cond line (test.fold autoescape) (yes.fold autoescape) (foldBound autoescape no)

def foldAll (autoescape : Bool) : List Expr → List Expr
  | [] => []
  | e :: more => e.fold autoescape :: foldAll autoescape more

def foldEntries (autoescape : Bool) : List (Expr × Expr) → List (Expr × Expr)
  | [] => []
  | (k, v) :: more => (k.fold autoescape, v.fold autoescape) :: foldEntries autoescape more

def foldBound (autoescape : Bool) : Option Expr → Option Expr
  | none => none
  | some e => some (e.fold autoescape)

def foldArguments (autoescape : Bool) : List Arg → List Arg
  | [] => []
  | .value e :: more => .value (e.fold autoescape) :: foldArguments autoescape more
  | .keyword name e :: more => .keyword name (e.fold autoescape) :: foldArguments autoescape more
  | .spread e :: more => .spread (e.fold autoescape) :: foldArguments autoescape more
  | .spreadKeywords e :: more =>
    .spreadKeywords (e.fold autoescape) :: foldArguments autoescape more

def foldChain (autoescape : Bool) : List (Relation × Expr) → List (Relation × Expr)
  | [] => []
  | (r, e) :: more => (r, e.fold autoescape) :: foldChain autoescape more

end

mutual

/-- Replace the constant parts of every expression of a statement. -/
def Stmt.fold (autoescape : Bool) : Stmt → Stmt
  | .text s => .text s
  | .print e =>
    match e.constant? autoescape with
    | some v => .print (.const v)
    | none => .print (e.fold autoescape)
  | .choose branches otherwise =>
    .choose (foldBranches autoescape branches) (foldStatements autoescape otherwise)
  | .each target source condition body otherwise =>
    .each target (source.fold autoescape) (foldBound autoescape condition)
      (foldStatements autoescape body) (foldStatements autoescape otherwise)
  | .assign target e => .assign target (e.fold autoescape)
  | .capture target body => .capture target (foldStatements autoescape body)
  | .embed e ignoreMissing withContext => .embed (e.fold autoescape) ignoreMissing withContext

def foldStatements (autoescape : Bool) : List Stmt → List Stmt
  | [] => []
  | s :: more => s.fold autoescape :: foldStatements autoescape more

def foldBranches (autoescape : Bool) : List (Expr × List Stmt) → List (Expr × List Stmt)
  | [] => []
  | (e, body) :: more =>
    (e.fold autoescape, foldStatements autoescape body) :: foldBranches autoescape more

end

end DeferredViews.Template
