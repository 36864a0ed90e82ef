import DeferredViews.Template.Fold

/-!
# Names that a template relies on

A template that uses an unknown filter or test is refused, unless the use stands inside a
condition: there it is a fault only when it is reached. A loop may not assign to the state of a
loop.
-/
namespace DeferredViews.Template

/-- A use of an unknown name: a refusal, or none where names are checked late. -/
def requireName (late : Bool) (kind : String) (known : Bool) (name : String) :
    Except SyntaxFault Unit :=
  if late || known then .ok ()
  else .error ⟨"No " ++ kind ++ " named " ++ Text.quoted name ++ ".", 1, true⟩

mutual

/-- Check the names that an expression relies on, the outer ones first. -/
def Expr.check (late : Bool) : Expr → Except SyntaxFault Unit
  | .const _ => .ok ()
  | .name _ => .ok ()
  | .tuple items => checkAll late items
  | .list items => checkAll late items
  | .dict entries => checkEntries late entries
  | .attr e _ => e.check late
  | .element e key => do
    e.check late
    key.check late
  | .slice a b c => do
    checkBound late a
    checkBound late b
    checkBound late c
  | .call f args => do
    f.check late
    checkArguments late args
  | .filter e name args => do
    requireName late "filter" (Filter.ofName? name).isSome name
    e.check late
    checkArguments late args
  | .test e name args => do
    requireName late "test" (Test.ofName? name).isSome name
    e.check late
    checkArguments late args
  | .not e => e.check late
  | .sign _ e => e.check late
  | .arithmetic _ a b => do
    a.check late
    b.check late
  | .concat parts => checkAll late parts
  | .compare first rest => do
    first.check late
    checkChain late rest
  | .and a b => do
    a.check late
    b.check late
  | .or a b => do
    a.check late
    b.check late
  | .cond .. => .ok ()

def checkAll (late : Bool) : List Expr → Except SyntaxFault Unit
  | [] => .ok ()
  | e :: more => do
    e.check late
    checkAll late more

def checkEntries (late : Bool) : List (Expr × Expr) → Except SyntaxFault Unit
  | [] => .ok ()
  | (k, v) :: more => do
    k.check late
    v.check late
    checkEntries late more

def checkBound (late : Bool) : Option Expr → Except SyntaxFault Unit
  | none => .ok ()
  | some e => e.check late

def checkArguments (late : Bool) : List Arg → Except SyntaxFault Unit
  | [] => .ok ()
  | .value e :: more | .keyword _ e :: more | .spread e :: more | .spreadKeywords e :: more => do
    e.check late
    checkArguments late more

def checkChain (late : Bool) : List (Relation × Expr) → Except SyntaxFault Unit
  | [] => .ok ()
  | (_, e) :: more => do
    e.check late
    checkChain late more

end

mutual

/-- Whether a statement assigns to a name, at any depth. -/
def Stmt.assigns (name : String) : Stmt → Bool
  | .text _ | .print _ | .embed .. => false
  | .choose branches otherwise => branchesAssign name branches || anyAssigns name otherwise
  | .each target _ _ body otherwise =>
    target.names.contains name || anyAssigns name body || anyAssigns name otherwise
  | .assign target _ => target.names.contains name
  | .capture target body => target.names.contains name || anyAssigns name body

def anyAssigns (name : String) : List Stmt → Bool
  | [] => false
  | s :: more => s.assigns name || anyAssigns name more

def branchesAssign (name : String) : List (Expr × List Stmt) → Bool
  | [] => false
  | (_, body) :: more => anyAssigns name body || branchesAssign name more

end

mutual

/-- Check the names that a statement relies on. Inside a condition unknown names wait for the run;
the body of a loop is checked at once again. -/
def Stmt.check (late : Bool) : Stmt → Except SyntaxFault Unit
  | .text _ => .ok ()
  | .print e => e.check late
  | .choose branches otherwise => do
    checkBranches branches
    checkStatements true otherwise
  | .each target source condition body otherwise => do
    checkBound false condition
    if target.names.contains "loop" || anyAssigns "loop" body || anyAssigns "loop" otherwise then
      .error ⟨"Can't assign to special loop variable in for-loop", 1, true⟩
    source.check late
    checkStatements false body
    checkStatements false otherwise
  | .assign _ e => e.check late
  | .capture _ body => checkStatements false body
  | .embed e _ _ => e.check late

def checkStatements (late : Bool) : List Stmt → Except SyntaxFault Unit
  | [] => .ok ()
  | s :: more => do
    s.check late
    checkStatements late more

def checkBranches : List (Expr × List Stmt) → Except SyntaxFault Unit
  | [] => .ok ()
  | (e, body) :: more => do
    e.check true
    checkStatements true body
    checkBranches more

end

end DeferredViews.Template
