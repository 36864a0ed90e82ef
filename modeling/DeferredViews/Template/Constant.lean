import DeferredViews.Template.Filter
import DeferredViews.Template.Tree

/-!
# Constant expressions

An expression without names and calls is computed once, before the template runs. It is constant
only if nothing goes wrong in computing it; otherwise the fault waits for the run. Texts that are
joined as constants are joined as plain text.
-/
namespace DeferredViews.Template

/-- A binary relation of a comparison chain. -/
def Relation.holds : Relation → Value → Value → Except Fault Bool
  | .eq, a, b => .ok (a.equals b)
  | .ne, a, b => .ok (!a.equals b)
  | .order op, a, b => Value.ordered op a b
  | .member, a, b => Value.member a b
  | .notMember, a, b => (Value.member a b).map (!·)

/-- The mapping with the given entries, if every key can be one. -/
def entriesDict (entries : List (Value × Value)) : Except Fault Value :=
  match entries.find? fun (k, _) => !k.hashable with
  | some (k, _) => .error (.type (.unhashable k.typeName))
  | none => .ok (Value.ofEntries entries)

/-- The arguments of a call as values: those by position and those by keyword. -/
structure Arguments where
  args : List Value := []
  kwargs : Locals := []

def Arguments.add (a : Arguments) (v : Value) : Arguments := { a with args := a.args ++ [v] }

def Arguments.addKeyword (a : Arguments) (name : String) (v : Value) : Arguments :=
  { a with kwargs := a.kwargs ++ [(name, v)] }

/-- Add many arguments at once from an iterable. -/
def Arguments.spread (a : Arguments) (v : Value) : Except Fault Arguments := do
  .ok { a with args := a.args ++ (← v.items) }

/-- Add many arguments at once from a mapping with text keys. -/
def Arguments.spreadKeywords (a : Arguments) (v : Value) : Except Fault Arguments := do
  match v with
  | .dict es =>
    es.foldlM
      (fun a (k, w) =>
        match k.text? with
        | some name =>
          if a.kwargs.contains name then
            .error (.type (.arguments ("got multiple values for keyword argument " ++
              Text.quoted name)))
          else .ok (a.addKeyword name w)
        | none => .error (.type (.arguments "keywords must be strings")))
      a
  | v =>
    .error (.type (.arguments ("argument after ** must be a mapping, not " ++ v.typeName)))

/-- Apply the filter of a name; a name without one is a fault. -/
def applyFilter (autoescape : Bool) (name : String) (v : Value) (a : Arguments) :
    Except Fault Value :=
  match Filter.ofName? name with
  | some f => f.apply autoescape v a.args a.kwargs
  | none => .error (.noSuch "filter" name)

/-- Apply the test of a name; a name without one is a fault. -/
def applyTest (name : String) (v : Value) (a : Arguments) : Except Fault Value :=
  match Test.ofName? name with
  | some t => t.apply v a.args a.kwargs
  | none => .error (.noSuch "test" name)

mutual

/-- The value of a constant expression. -/
def Expr.constant? (autoescape : Bool) : Expr → Option Value
  | .const v => some v
  | .name _ => none
  | .tuple items => (constants? autoescape items).map .tuple
  | .list items => (constants? autoescape items).map .list
  | .dict entries => do (entriesDict (← constantEntries? autoescape entries)).toOption
  | .attr e name => do ((← e.constant? autoescape).getMember name).toOption
  | .element e key => do
    ((← e.constant? autoescape).getElement (← key.constant? autoescape)).toOption
  | .slice start stop step => do
    some (.slice (← constantBound? autoescape start) (← constantBound? autoescape stop)
      (← constantBound? autoescape step))
  | .call .. => none
  | .filter e name args => do
    let a ← constantArguments? autoescape {} args
    (applyFilter autoescape name (← e.constant? autoescape) a).toOption
  | .test e name args => do
    let a ← constantArguments? autoescape {} args
    (applyTest name (← e.constant? autoescape) a).toOption
  | .not e => do some (.bool !(← e.constant? autoescape).truthy)
  | .sign negative e => do (Value.signed negative (← e.constant? autoescape)).toOption
  | .arithmetic op a b => do
    (Value.arithmetic op (← a.constant? autoescape) (← b.constant? autoescape)).toOption
  | .concat parts => do
    some (.str (String.join ((← constants? autoescape parts).map Value.text)))
  | .compare first rest => do constantChain? autoescape (← first.constant? autoescape) rest
  | .and a b => do
    let v ← a.constant? autoescape
    if v.truthy then b.constant? autoescape else some v
  | .or a b => do
    let v ← a.constant? autoescape
    if v.truthy then some v else b.constant? autoescape
  | .cond _ test yes no => do
    if (← test.constant? autoescape).truthy then yes.constant? autoescape
    else
      match no with
      | some e => e.constant? autoescape
      | none => none

def constants? (autoescape : Bool) : List Expr → Option (List Value)
  | [] => some []
  | e :: more => do
    let v ← e.constant? autoescape
    some (v :: (← constants? autoescape more))

def constantEntries? (autoescape : Bool) : List (Expr × Expr) → Option (List (Value × Value))
  | [] => some []
  | (k, v) :: more => do
    let k ← k.constant? autoescape
    let v ← v.constant? autoescape
    some ((k, v) :: (← constantEntries? autoescape more))

def constantBound? (autoescape : Bool) : Option Expr → Option Value
  | none => some .null
  | some e => e.constant? autoescape

def constantArguments? (autoescape : Bool) (a : Arguments) : List Arg → Option Arguments
  | [] => some a
  | .value e :: more => do
    constantArguments? autoescape (a.add (← e.constant? autoescape)) more
  | .keyword name e :: more => do
    constantArguments? autoescape (a.addKeyword name (← e.constant? autoescape)) more
  | .spread e :: more => do
    constantArguments? autoescape (← (a.spread (← e.constant? autoescape)).toOption) more
  | .spreadKeywords e :: more => do
    constantArguments? autoescape (← (a.spreadKeywords (← e.constant? autoescape)).toOption) more

def constantChain? (autoescape : Bool) (v : Value) : List (Relation × Expr) → Option Value
  | [] => some (.bool true)
  | (r, e) :: more => do
    let w ← e.constant? autoescape
    if ← (r.holds v w).toOption then constantChain? autoescape w more else some (.bool false)

end

end DeferredViews.Template

namespace DeferredViews.Value

mutual

/-- Values that can stand in a template as literals. -/
def isLiteral : Value → Bool
  | .null | .bool _ | .int _ | .float _ | .str _ | .markup _ => true
  | .list items | .tuple items => areLiterals items
  | .dict entries => areLiteralEntries entries
  | _ => false

def areLiterals : List Value → Bool
  | [] => true
  | v :: more => v.isLiteral && areLiterals more

def areLiteralEntries : List (Value × Value) → Bool
  | [] => true
  | (k, v) :: more => k.isLiteral && v.isLiteral && areLiteralEntries more

end

end DeferredViews.Value
