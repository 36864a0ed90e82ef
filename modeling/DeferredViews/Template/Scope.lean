import DeferredViews.Template.Tree

/-!
# Scopes

Loops and captured blocks open a scope, branches do not. An assignment binds a name in the
innermost scope. A name that a scope assigns before it reads it, and that no outer scope mentions,
belongs to that scope from its start: until the assignment it is absent, even if the locals have
it. Which names these are is settled by looking at the text of the scope, not by running it.
-/
namespace DeferredViews.Template

/-- What the text of a scope says about its names: the names it mentions, each with whether it is
absent at the start, and the names it assigns. -/
structure Mentions where
  names : List (String × Bool) := []
  assigned : List String := []

namespace Mentions

def has (m : Mentions) (name : String) : Bool := m.names.any (·.1 == name)

/-- Note whether a name is absent at the start. -/
def put (m : Mentions) (name : String) (hidden : Bool) : Mentions :=
  if m.has name then
    { m with names := m.names.map fun (n, h) => (n, if n == name then hidden else h) }
  else { m with names := m.names ++ [(name, hidden)] }

def read (outer : List String) (m : Mentions) (name : String) : Mentions :=
  if m.has name || outer.contains name then m else m.put name false

def assign (outer : List String) (m : Mentions) (name : String) : Mentions :=
  let m := { m with assigned := if m.assigned.contains name then m.assigned
    else m.assigned ++ [name] }
  if m.has name then m else m.put name (!outer.contains name)

/-- A name that the scope gets from outside: an item of a loop, or the state of the loop. -/
def receive (m : Mentions) (name : String) : Mentions :=
  { (m.put name false) with assigned := m.assigned ++ [name] }

/-- Join the branches of a condition. A name that not every branch assigns is not absent at the
start. -/
def join (before : Mentions) (branches : List Mentions) : Mentions :=
  let fresh := (branches.flatMap (·.assigned)).filter (!before.assigned.contains ·)
  let merged := branches.foldl
    (fun m b => b.names.foldl (fun m (n, h) => m.put n h) m) before
  let merged := { merged with assigned := (before.assigned ++ fresh).eraseDups }
  fresh.foldl
    (fun m n => if branches.all (·.assigned.contains n) then m else m.put n false) merged

end Mentions

mutual

/-- The names that an expression reads, in order. -/
def Expr.reads : Expr → List String
  | .const _ => []
  | .name n => [n]
  | .tuple items => readsAll items
  | .list items => readsAll items
  | .dict entries => readsEntries entries
  | .attr e _ => e.reads
  | .element e key => e.reads ++ key.reads
  | .slice a b c => readsBound a ++ readsBound b ++ readsBound c
  | .call f args => f.reads ++ readsArguments args
  | .filter e _ args => e.reads ++ readsArguments args
  | .test e _ args => e.reads ++ readsArguments args
  | .not e => e.reads
  | .sign _ e => e.reads
  | .arithmetic _ a b => a.reads ++ b.reads
  | .concat parts => readsAll parts
  | .compare first rest => first.reads ++ readsChain rest
  | .and a b => a.reads ++ b.reads
  | .or a b => a.reads ++ b.reads
  | .cond _ test yes no => test.reads ++ yes.reads ++ readsBound no

def readsAll : List Expr → List String
  | [] => []
  | e :: more => e.reads ++ readsAll more

def readsEntries : List (Expr × Expr) → List String
  | [] => []
  | (k, v) :: more => k.reads ++ v.reads ++ readsEntries more

def readsBound : Option Expr → List String
  | none => []
  | some e => e.reads

def readsArguments : List Arg → List String
  | [] => []
  | .value e :: more | .keyword _ e :: more | .spread e :: more | .spreadKeywords e :: more =>
    e.reads ++ readsArguments more

def readsChain : List (Relation × Expr) → List String
  | [] => []
  | (_, e) :: more => e.reads ++ readsChain more

end

mutual

/-- What a statement adds to the names of its scope. The body of a loop or of a captured block has
a scope of its own. Of a condition, the branches after the first one are together one alternative
besides the first branch and the `else` part. -/
def Stmt.mention (outer : List String) (m : Mentions) : Stmt → Mentions
  | .text _ => m
  | .print e => e.reads.foldl (Mentions.read outer) m
  | .choose [] otherwise => mentionAll outer m otherwise
  | .choose ((e, body) :: more) otherwise =>
    let before := e.reads.foldl (Mentions.read outer) m
    before.join
      [mentionAll outer before body, mentionFurther outer before more,
        mentionAll outer before otherwise]
  | .each _ source _ _ _ => source.reads.foldl (Mentions.read outer) m
  | .assign target e =>
    target.names.foldl (Mentions.assign outer) (e.reads.foldl (Mentions.read outer) m)
  | .capture target _ => target.names.foldl (Mentions.assign outer) m
  | .embed e _ _ => e.reads.foldl (Mentions.read outer) m

def mentionAll (outer : List String) (m : Mentions) : List Stmt → Mentions
  | [] => m
  | s :: more => mentionAll outer (s.mention outer m) more

/-- Further branches, each of them a condition without an `else` part. -/
def mentionFurther (outer : List String) (m : Mentions) : List (Expr × List Stmt) → Mentions
  | [] => m
  | (e, body) :: more =>
    let before := e.reads.foldl (Mentions.read outer) m
    mentionFurther outer (before.join [mentionAll outer before body, before, before]) more

end

mutual

/-- Whether a statement reads a name, at any depth. -/
def Stmt.readsName (name : String) : Stmt → Bool
  | .text _ => false
  | .print e => e.reads.contains name
  | .choose branches otherwise => branchesRead name branches || anyReads name otherwise
  | .each _ source condition body otherwise =>
    source.reads.contains name || (readsBound condition).contains name || anyReads name body ||
      anyReads name otherwise
  | .assign _ e => e.reads.contains name
  | .capture _ body => anyReads name body
  | .embed e _ _ => e.reads.contains name

def anyReads (name : String) : List Stmt → Bool
  | [] => false
  | s :: more => s.readsName name || anyReads name more

def branchesRead (name : String) : List (Expr × List Stmt) → Bool
  | [] => false
  | (e, body) :: more =>
    e.reads.contains name || anyReads name body || branchesRead name more

end

/-- The names of a scope with their values; a name without a value is absent for now. -/
abbrev Frame := List (String × Option Value)

/-- Bind a name in a frame. -/
def Frame.set (name : String) (v : Option Value) : Frame → Frame
  | [] => [(name, v)]
  | (n, w) :: more => if name = n then (n, v) :: more else (n, w) :: Frame.set name v more

/-- The open scopes, innermost first, the locals behind them, and the names that the open scopes
mention. -/
structure Scope where
  frames : List Frame
  base : Locals
  mentioned : List String

namespace Scope

/-- The value of a name: from the innermost scope that has it, else from the locals. -/
def value (s : Scope) (name : String) : Value :=
  match s.frames.findSome? (List.lookup name) with
  | some (some v) => v
  | some none => .absent (.name name)
  | none => (s.base.get? name).getD (.absent (.name name))

/-- Bind a name in the innermost scope. -/
def assign (s : Scope) (name : String) (v : Value) : Scope :=
  match s.frames with
  | [] => { s with frames := [[(name, some v)]] }
  | f :: more => { s with frames := f.set name (some v) :: more }

/-- Open a scope that receives some names, for statements that mention others. -/
def enter (s : Scope) (received : List (String × Value)) (body : List Stmt) : Scope :=
  let m := mentionAll s.mentioned ((received.map (·.1)).foldl Mentions.receive {}) body
  let hidden := m.names.filterMap fun (n, h) => if h then some (n, none) else none
  let received : Frame := received.foldl (fun f (n, v) => f.set n (some v)) []
  { s with
    frames := (received ++ hidden) :: s.frames
    mentioned := s.mentioned ++ m.names.map (·.1) }

/-- The scope of a whole template over some locals. -/
def ofLocals (base : Locals) (body : List Stmt) : Scope :=
  (Scope.mk [] base []).enter [] body

/-- The locals that an included template sees: those of this template and every name that a scope
has a value for. -/
def visible (s : Scope) : Locals :=
  s.frames.reverse.foldl
    (fun l f => l.update (f.filterMap fun (n, v) => v.map (n, ·))) s.base

end Scope
end DeferredViews.Template
