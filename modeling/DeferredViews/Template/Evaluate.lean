import DeferredViews.Template.Compiled
import DeferredViews.Template.Scope

/-!
# Running a template

A template runs over locals and prints text. What lies outside the template (calling a function,
finding an included template) is asked of a host, which may keep a state; whatever the state was
when a fault ended the run is kept. Expressions run left to right, and only the operands that a
condition needs.
-/
namespace DeferredViews.Template

/-- What a run asks of its surroundings. -/
structure Host (σ : Type) where
  /-- Whether printed values are escaped. -/
  autoescape : Bool
  /-- The names that every template sees. -/
  globals : Locals
  call : Callable → List Value → Locals → Action σ Value
  /-- The template of a name, if there is one. -/
  load : String → Action σ (Option Template)

variable {σ : Type}

/-- Call a value. -/
def callValue (h : Host σ) (f : Value) (a : Arguments) : Action σ Value :=
  match f with
  | .function c => h.call c a.args a.kwargs
  | .method owner name => .ofExcept (owner.callMethod name a.args a.kwargs)
  | .absent why => .fail (.undefined why)
  | v => .fail (.type (.notCallable v.typeName))

/-- How a message names a place in a template. -/
def placeText (line : Nat) (name : Option String) : String :=
  "line " ++ toString line ++
    match name with
    | some n => " in " ++ Text.quoted n
    | none => ""

mutual

/-- The value of an expression. -/
def Expr.eval (h : Host σ) (template : Option String) (s : Scope) : Expr → Action σ Value
  | .const v => pure v
  | .name n => pure (s.value n)
  | .tuple items => .tuple <$> evalAll h template s items
  | .list items => .list <$> evalAll h template s items
  | .dict entries => do .ofExcept (entriesDict (← evalEntries h template s entries))
  | .attr e name => do .ofExcept ((← e.eval h template s).getMember name)
  | .element e (.slice start stop step) => do
    let v ← e.eval h template s
    let a ← evalBound h template s start
    let b ← evalBound h template s stop
    let c ← evalBound h template s step
    .ofExcept (v.getSlice a b c)
  | .element e key => do
    let v ← e.eval h template s
    .ofExcept (v.getElement (← key.eval h template s))
  | .slice start stop step => do
    let a ← evalBound h template s start
    let b ← evalBound h template s stop
    return .slice a b (← evalBound h template s step)
  | .call f args => do
    let f ← f.eval h template s
    callValue h f (← evalArguments h template s {} args)
  | .filter e name args => do
    let v ← e.eval h template s
    .ofExcept (applyFilter h.autoescape name v (← evalArguments h template s {} args))
  | .test e name args => do
    let v ← e.eval h template s
    .ofExcept (applyTest name v (← evalArguments h template s {} args))
  | .not e => do return .bool !(← e.eval h template s).truthy
  | .sign negative e => do .ofExcept (Value.signed negative (← e.eval h template s))
  | .arithmetic op a b => do
    let v ← a.eval h template s
    .ofExcept (Value.arithmetic op v (← b.eval h template s))
  | .concat parts => do return Value.concatenate h.autoescape (← evalAll h template s parts)
  | .compare first rest => do evalChain h template s (← first.eval h template s) rest
  | .and a b => do
    let v ← a.eval h template s
    if v.truthy then b.eval h template s else return v
  | .or a b => do
    let v ← a.eval h template s
    if v.truthy then return v else b.eval h template s
  | .cond line test yes no => do
    if (← test.eval h template s).truthy then yes.eval h template s
    else
      match no with
      | some e => e.eval h template s
      | none => return .absent (.noElse (placeText line template))

def evalAll (h : Host σ) (template : Option String) (s : Scope) :
    List Expr → Action σ (List Value)
  | [] => return []
  | e :: more => do
    let v ← e.eval h template s
    return v :: (← evalAll h template s more)

def evalEntries (h : Host σ) (template : Option String) (s : Scope) :
    List (Expr × Expr) → Action σ (List (Value × Value))
  | [] => return []
  | (k, v) :: more => do
    let k ← k.eval h template s
    let v ← v.eval h template s
    return (k, v) :: (← evalEntries h template s more)

def evalBound (h : Host σ) (template : Option String) (s : Scope) :
    Option Expr → Action σ Value
  | none => return .null
  | some e => e.eval h template s

def evalArguments (h : Host σ) (template : Option String) (s : Scope) (a : Arguments) :
    List Arg → Action σ Arguments
  | [] => return a
  | .value e :: more => do
    evalArguments h template s (a.add (← e.eval h template s)) more
  | .keyword name e :: more => do
    evalArguments h template s (a.addKeyword name (← e.eval h template s)) more
  | .spread e :: more => do
    let v ← e.eval h template s
    evalArguments h template s (← .ofExcept (a.spread v)) more
  | .spreadKeywords e :: more => do
    let v ← e.eval h template s
    evalArguments h template s (← .ofExcept (a.spreadKeywords v)) more

/-- A comparison chain holds when each link does; it stops at the first link that does not. -/
def evalChain (h : Host σ) (template : Option String) (s : Scope) (v : Value) :
    List (Relation × Expr) → Action σ Value
  | [] => return .bool true
  | (r, e) :: more => do
    let w ← e.eval h template s
    if ← .ofExcept (r.holds v w) then evalChain h template s w more else return .bool false

end

/-- Take a value apart into the given number of items. -/
def unpack (n : Nat) (v : Value) : Except Fault (List Value) :=
  match v.items with
  | .error _ => .error (.type (.notUnpackable v.typeName))
  | .ok xs =>
    if n < xs.length then
      .error (.value ("too many values to unpack (expected " ++ toString n ++ ")"))
    else if xs.length < n then
      .error (.value ("not enough values to unpack (expected " ++ toString n ++ ", got " ++
        toString xs.length ++ ")"))
    else .ok xs

mutual

/-- The names that a target binds for a value, with their values. -/
def Target.bind : Target → Value → Except Fault (List (String × Value))
  | .name n, v => .ok [(n, v)]
  | .tuple items, v => do bindAll items (← unpack items.length v)

def bindAll : List Target → List Value → Except Fault (List (String × Value))
  | t :: ts, v :: vs => do
    let bound ← t.bind v
    .ok (bound ++ (← bindAll ts vs))
  | _, _ => .ok []

end

/-- The first of some candidate templates that exists. -/
def firstTemplate (h : Host σ) :
    List Value → List String → Action σ Template
  | [], names =>
    .fail (.templatesMissing ("none of the templates given were found: " ++
      String.intercalate ", " names))
  | .absent why :: more, names => firstTemplate h more (names ++ [why.message])
  | v :: more, names => do
    if !v.hashable then .fail (.type (.unhashable v.typeName))
    else
      match ← (v.text?.elim (pure none) h.load : Action σ (Option Template)) with
      | some t => return t
      | none => firstTemplate h more (names ++ [v.text])

/-- The template that an include means: of a name, or the first one of several candidates. -/
def findTemplate (h : Host σ) (v : Value) : Action σ Template := do
  match v with
  | .str name | .markup name =>
    match ← h.load name with
    | some t => return t
    | none => .fail (.templateMissing name)
  | .absent why => .fail (.undefined why)
  | v =>
    if !v.truthy then
      .fail (.templatesMissing "Tried to select from an empty list of templates.")
    else firstTemplate h (← .ofExcept v.items) []

/-- Whether a fault says only that a template is missing. -/
def isMissingTemplate : Interrupt → Bool
  | .fault (.templateMissing _) | .fault (.templatesMissing _) => true
  | _ => false

/-- As `findTemplate`, but a missing template is no fault. -/
def findTemplate? (h : Host σ) (v : Value) : Action σ (Option Template) :=
  tryCatch (some <$> findTemplate h v) fun e => if isMissingTemplate e then pure none else throw e

/-- Print every item that passes a test. -/
def printEach (test : Value → Action σ Bool) (run : Value → Action σ String) :
    List Value → Action σ (List String)
  | [] => return []
  | v :: more => do
    if ← test v then
      let out ← run v
      return out :: (← printEach test run more)
    else printEach test run more

/-- The items that pass a test. -/
def keepEach (test : Value → Action σ Bool) : List Value → Action σ (List Value)
  | [] => return []
  | v :: more => do
    if ← test v then return v :: (← keepEach test more) else keepEach test more

/-- Print every item with its index. -/
def printIndexed (run : Nat → Value → Action σ String) :
    Nat → List Value → Action σ (List String)
  | _, [] => return []
  | i, v :: more => do
    let out ← run i v
    return out :: (← printIndexed run (i + 1) more)

mutual

/-- Run a statement: the text it prints and the scope after it. Included templates are run by
`embed`. -/
def Stmt.run (h : Host σ) (embed : Template → Locals → Action σ String)
    (template : Option String) (s : Scope) : Stmt → Action σ (Scope × String)
  | .text t => return (s, t)
  | .print e => do return (s, Value.printed h.autoescape (← e.eval h template s))
  | .choose branches otherwise => do
    match ← runBranches h embed template s branches with
    | some done => return done
    | none => runAll h embed template s otherwise
  | .each target source condition body otherwise => do
    let xs ← .ofExcept (← source.eval h template s).items
    let passes (v : Value) : Action σ Bool := do
      match condition with
      | none => return true
      | some e =>
        let bound ← .ofExcept (target.bind v)
        return (← e.eval h template (s.enter bound [])).truthy
    let inside (state : List (String × Value)) (v : Value) : Action σ String := do
      let bound ← .ofExcept (target.bind v)
      let (_, out) ← runAll h embed template (s.enter (state ++ bound) body) body
      return out
    let outs ←
      if anyReads "loop" body then do
        let xs ← keepEach passes xs
        printIndexed (fun i v => inside [("loop", .loop i xs.length)] v) 0 xs
      else printEach passes (inside []) xs
    if outs.isEmpty then
      let (_, out) ← runAll h embed template (s.enter [] otherwise) otherwise
      return (s, out)
    else return (s, String.join outs)
  | .assign target e => do
    let bound ← .ofExcept (target.bind (← e.eval h template s))
    return (bound.foldl (fun s (n, v) => s.assign n v) s, "")
  | .capture target body => do
    let (_, out) ← runAll h embed template (s.enter [] body) body
    let bound ← .ofExcept (target.bind (if h.autoescape then .markup out else .str out))
    return (bound.foldl (fun s (n, v) => s.assign n v) s, "")
  | .embed e ignoreMissing withContext => do
    let v ← e.eval h template s
    let found ← if ignoreMissing then findTemplate? h v else some <$> findTemplate h v
    match found with
    | none => return (s, "")
    | some t => return (s, ← embed t (if withContext then s.visible else h.globals))

def runAll (h : Host σ) (embed : Template → Locals → Action σ String)
    (template : Option String) (s : Scope) : List Stmt → Action σ (Scope × String)
  | [] => return (s, "")
  | st :: more => do
    let (s, out) ← st.run h embed template s
    let (s, rest) ← runAll h embed template s more
    return (s, out ++ rest)

/-- Run the first branch whose condition holds, if any. -/
def runBranches (h : Host σ) (embed : Template → Locals → Action σ String)
    (template : Option String) (s : Scope) :
    List (Expr × List Stmt) → Action σ (Option (Scope × String))
  | [] => return none
  | (e, body) :: more => do
    if (← e.eval h template s).truthy then some <$> runAll h embed template s body
    else runBranches h embed template s more

end

end DeferredViews.Template

namespace DeferredViews

/-- How deep templates may include each other. -/
def includeDepth : Nat := 900

/-- Run a template over locals, with the given depth of includes left. -/
def Template.runWithin {σ : Type} (h : Template.Host σ) :
    Nat → Template → Locals → Action σ String
  | 0, _, _ => .fail .tooDeep
  | depth + 1, t, base => do
    let (_, out) ← Template.runAll h (Template.runWithin h depth) t.name
      (.ofLocals base t.body) t.body
    return out

/-- Run a template over locals; they hide global names. -/
def Template.run {σ : Type} (h : Template.Host σ) (t : Template) (locals : Locals) :
    Action σ String :=
  t.runWithin h includeDepth (h.globals.update locals)

end DeferredViews
