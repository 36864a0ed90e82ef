import DeferredViews.Template.Lexer
import DeferredViews.Template.Tree

/-!
# Reading a template into its tree

Precedence climbs from conditional expressions over `or`, `and`, `not`, comparison chains, sums,
joins, products and powers to signs and postfixes. Block statements know which closing tags they
wait for, so that a tag in the wrong place can be reported with what was expected instead.
-/
namespace DeferredViews.Template

open Text

/-- What is left to read, the line of the last token, the open statements, innermost first, and
the closing tags each open block waits for. -/
structure Progress where
  lexemes : List Lexeme
  fault : Option SyntaxFault
  line : Nat
  openTags : List String
  awaited : List (List String)

abbrev Parser := StateT Progress (Except SyntaxFault)

namespace Parser

/-- A place that cannot be read is reported as soon as reading reaches it. -/
def settle (p : Progress) : Except SyntaxFault Progress :=
  match p.lexemes, p.fault with
  | [], some f => .error f
  | _, _ => .ok p

def current : Parser Lexeme := do
  let p ← get
  return p.lexemes.head?.getD ⟨.eof, p.line⟩

def peek : Parser Token := return (← current).token

/-- The token after the current one. -/
def peekNext : Parser Token := do
  let p ← get
  match p.lexemes, p.fault with
  | [_], some f => throw f
  | _ :: l :: _, _ => return l.token
  | _, _ => return .eof

/-- Step over the current token. -/
def advance : Parser Lexeme := do
  let l ← current
  let p ← get
  match settle { p with lexemes := p.lexemes.tail, line := l.line } with
  | .ok p => set p
  | .error f => throw f
  return l

def failAt {α : Type} (line : Nat) (message : String) : Parser α := throw ⟨message, line, false⟩

def fail {α : Type} (message : String) : Parser α := do failAt (← current).line message

/-- Step over a token if it is the current one. -/
def skip (t : Token) : Parser Bool := do
  if (← peek) = t then
    discard advance
    return true
  return false

/-- Require a token of the accepted kind, described in the complaint by `wanted`. -/
def expectWhere (wanted : String) (accepts : Token → Bool) : Parser Lexeme := do
  let l ← current
  if accepts l.token then advance
  else if l.token = .eof then
    failAt l.line ("unexpected end of template, expected " ++ quoted wanted ++ ".")
  else
    failAt l.line ("expected token " ++ quoted wanted ++ ", got " ++ quoted l.token.describe)

def expect (t : Token) : Parser Lexeme := expectWhere t.describe (· = t)

/-- Require a name. -/
def expectName : Parser String := do
  match (← expectWhere "name" fun | .name _ => true | _ => false).token with
  | .name s => return s
  | _ => return ""

def tooDeep {α : Type} : Parser α := fail "maximum recursion depth exceeded"

/-- Whether a list of expressions ends here. -/
def atTupleEnd (closers : List String) : Parser Bool := do
  match ← peek with
  | .printEnd | .blockEnd => return true
  | .symbol ")" => return true
  | .name n => return closers.contains n
  | _ => return false

def relation? : Token → Option Relation
  | .symbol "==" => some .eq
  | .symbol "!=" => some .ne
  | .symbol "<" => some (.order .lt)
  | .symbol "<=" => some (.order .le)
  | .symbol ">" => some (.order .gt)
  | .symbol ">=" => some (.order .ge)
  | _ => none

def sum? : Token → Option Value.ArithmeticOp
  | .symbol "+" => some .add
  | .symbol "-" => some .sub
  | _ => none

def product? : Token → Option Value.ArithmeticOp
  | .symbol "*" => some .mul
  | .symbol "/" => some .div
  | .symbol "//" => some .floorDiv
  | .symbol "%" => some .mod
  | _ => none

/-- How a list of expressions is read: only primaries, conditional expressions or not, the names
that end it, and whether it stands in parentheses. -/
structure TupleStyle where
  primaries : Bool := false
  conditional : Bool := true
  closers : List String := []
  parenthesised : Bool := false

def literal? : String → Option Value
  | "true" => some (.bool true)
  | "True" => some (.bool true)
  | "false" => some (.bool false)
  | "False" => some (.bool false)
  | "none" => some .null
  | "None" => some .null
  | _ => none

/-- Adjacent quoted texts are one text. -/
def strings : Nat → String → Parser String
  | 0, acc => return acc
  | fuel + 1, acc => do
    match ← peek with
    | .string s => do
      discard advance
      strings fuel (acc ++ s)
    | _ => return acc

/-- A dotted name. -/
def dottedName : Nat → String → Parser String
  | 0, acc => return acc
  | fuel + 1, acc => do
    if ← skip (.symbol ".") then
      let part ← expectName
      dottedName fuel (acc ++ "." ++ part)
    else return acc

mutual

def expression : Nat → Bool → Parser Expr
  | 0, _ => tooDeep
  | fuel + 1, conditional => do
    let line := (← current).line
    let e ← disjunction fuel
    if conditional then conditions fuel line e else return e

/-- `a if b else c`, possibly repeated. -/
def conditions : Nat → Nat → Expr → Parser Expr
  | 0, _, _ => tooDeep
  | fuel + 1, line, yes => do
    if ← skip (.name "if") then
      let test ← disjunction fuel
      let no ← if ← skip (.name "else") then some <$> expression fuel true else pure none
      conditions fuel (← current).line (.cond line test yes no)
    else return yes

def disjunction : Nat → Parser Expr
  | 0 => tooDeep
  | fuel + 1 => do disjunctions fuel (← conjunction fuel)

def disjunctions : Nat → Expr → Parser Expr
  | 0, _ => tooDeep
  | fuel + 1, left => do
    if ← skip (.name "or") then disjunctions fuel (.or left (← conjunction fuel))
    else return left

def conjunction : Nat → Parser Expr
  | 0 => tooDeep
  | fuel + 1 => do conjunctions fuel (← negation fuel)

def conjunctions : Nat → Expr → Parser Expr
  | 0, _ => tooDeep
  | fuel + 1, left => do
    if ← skip (.name "and") then conjunctions fuel (.and left (← negation fuel))
    else return left

def negation : Nat → Parser Expr
  | 0 => tooDeep
  | fuel + 1 => do
    if ← skip (.name "not") then return .not (← negation fuel)
    else
      let first ← sum fuel
      let rest ← comparisons fuel
      return if rest.isEmpty then first else .compare first rest

def comparisons : Nat → Parser (List (Relation × Expr))
  | 0 => tooDeep
  | fuel + 1 => do
    let more (r : Relation) : Parser (List (Relation × Expr)) := do
      let e ← sum fuel
      return (r, e) :: (← comparisons fuel)
    let t ← peek
    match relation? t with
    | some r => do
      discard advance
      more r
    | none =>
      if t = .name "in" then do
        discard advance
        more .member
      else if t = .name "not" then do
        if (← peekNext) = .name "in" then
          discard advance
          discard advance
          more .notMember
        else return []
      else return []

def sum : Nat → Parser Expr
  | 0 => tooDeep
  | fuel + 1 => do sums fuel (← joined fuel)

def sums : Nat → Expr → Parser Expr
  | 0, _ => tooDeep
  | fuel + 1, left => do
    match sum? (← peek) with
    | some op => do
      discard advance
      sums fuel (.arithmetic op left (← joined fuel))
    | none => return left

def joined : Nat → Parser Expr
  | 0 => tooDeep
  | fuel + 1 => do
    let first ← product fuel
    let rest ← joins fuel
    return if rest.isEmpty then first else .concat (first :: rest)

def joins : Nat → Parser (List Expr)
  | 0 => tooDeep
  | fuel + 1 => do
    if ← skip (.symbol "~") then
      let e ← product fuel
      return e :: (← joins fuel)
    else return []

def product : Nat → Parser Expr
  | 0 => tooDeep
  | fuel + 1 => do products fuel (← powers fuel (← signed fuel true))

def products : Nat → Expr → Parser Expr
  | 0, _ => tooDeep
  | fuel + 1, left => do
    match product? (← peek) with
    | some op => do
      discard advance
      products fuel (.arithmetic op left (← powers fuel (← signed fuel true)))
    | none => return left

def powers : Nat → Expr → Parser Expr
  | 0, _ => tooDeep
  | fuel + 1, left => do
    if ← skip (.symbol "**") then powers fuel (.arithmetic .pow left (← signed fuel true))
    else return left

/-- A sign binds tighter than a filter but looser than a postfix. -/
def signed : Nat → Bool → Parser Expr
  | 0, _ => tooDeep
  | fuel + 1, filtered => do
    let e ←
      if ← skip (.symbol "-") then do pure (Expr.sign true (← signed fuel false))
      else do
        if ← skip (.symbol "+") then do pure (Expr.sign false (← signed fuel false))
        else primary fuel
    let e ← postfixes fuel e
    if filtered then filters fuel e else return e

def primary : Nat → Parser Expr
  | 0 => tooDeep
  | fuel + 1 => do
    let l ← current
    match l.token with
    | .name n => do
      discard advance
      return match literal? n with
        | some v => .const v
        | none => .name n
    | .string s => do
      discard advance
      return .const (.str (← strings fuel s))
    | .integer n => do
      discard advance
      return .const (.int n)
    | .float x => do
      discard advance
      return .const (.float x)
    | .symbol "(" => do
      discard advance
      let e ← tupleOf fuel { parenthesised := true }
      discard (expect (.symbol ")"))
      return e
    | .symbol "[" => do
      discard advance
      return .list (← listItems fuel true)
    | .symbol "\x7b" => do
      discard advance
      return .dict (← dictItems fuel true)
    | t => failAt l.line ("unexpected " ++ quoted t.describe)

/-- One expression, or several with commas. -/
def tupleOf : Nat → TupleStyle → Parser Expr
  | 0, _ => tooDeep
  | fuel + 1, style => do
    let (items, comma) ← tupleItems fuel style true
    match items, comma with
    | [e], false => return e
    | [], false =>
      if style.parenthesised then return .tuple []
      else fail ("Expected an expression, got " ++ quoted (← peek).describe)
    | items, _ => return .tuple items

/-- The items of a tuple and whether a comma was seen. -/
def tupleItems : Nat → TupleStyle → Bool → Parser (List Expr × Bool)
  | 0, _, _ => tooDeep
  | fuel + 1, style, first => do
    unless first do discard (expect (.symbol ","))
    if ← atTupleEnd style.closers then return ([], false)
    let e ← if style.primaries then primary fuel else expression fuel style.conditional
    if (← peek) = .symbol "," then
      let (more, _) ← tupleItems fuel style false
      return (e :: more, true)
    else return ([e], false)

def listItems : Nat → Bool → Parser (List Expr)
  | 0, _ => tooDeep
  | fuel + 1, first => do
    if ← skip (.symbol "]") then return []
    unless first do discard (expect (.symbol ","))
    if ← skip (.symbol "]") then return []
    let e ← expression fuel true
    return e :: (← listItems fuel false)

def dictItems : Nat → Bool → Parser (List (Expr × Expr))
  | 0, _ => tooDeep
  | fuel + 1, first => do
    if ← skip (.symbol "\x7d") then return []
    unless first do discard (expect (.symbol ","))
    if ← skip (.symbol "\x7d") then return []
    let k ← expression fuel true
    discard (expect (.symbol ":"))
    let v ← expression fuel true
    return (k, v) :: (← dictItems fuel false)

/-- Attributes, elements and calls after an expression. -/
def postfixes : Nat → Expr → Parser Expr
  | 0, _ => tooDeep
  | fuel + 1, e => do
    match ← peek with
    | .symbol "." => do
      discard advance
      let l ← current
      match l.token with
      | .name n => do
        discard advance
        postfixes fuel (.attr e n)
      | .integer n => do
        discard advance
        postfixes fuel (.element e (.const (.int n)))
      | _ => do
        discard advance
        failAt l.line "expected name or number"
    | .symbol "[" => do
      discard advance
      match ← subscripts fuel true with
      | [key] => postfixes fuel (.element e key)
      | keys => postfixes fuel (.element e (.tuple keys))
    | .symbol "(" => do postfixes fuel (.call e (← arguments fuel))
    | _ => return e

def subscripts : Nat → Bool → Parser (List Expr)
  | 0, _ => tooDeep
  | fuel + 1, first => do
    if ← skip (.symbol "]") then return []
    unless first do discard (expect (.symbol ","))
    let e ← subscript fuel
    return e :: (← subscripts fuel false)

/-- An index or a slice. -/
def subscript : Nat → Parser Expr
  | 0 => tooDeep
  | fuel + 1 => do
    let bound (ends : List String) : Parser (Option Expr) := do
      match ← peek with
      | .symbol s => if ends.contains s then return none else some <$> expression fuel true
      | _ => some <$> expression fuel true
    let start ← bound [":"]
    match start, (← peek) with
    | some e, t =>
      if t = .symbol ":" then sliceFrom bound (some e) else return e
    | none, _ => sliceFrom bound none
where
  sliceFrom (bound : List String → Parser (Option Expr)) (start : Option Expr) :
      Parser Expr := do
    discard advance
    let stop ← bound [":", "]", ","]
    if ← skip (.symbol ":") then
      return .slice start stop (← bound ["]", ","])
    else return .slice start stop none

/-- The arguments of a call, from its opening parenthesis on. -/
def arguments : Nat → Parser (List Arg)
  | 0 => tooDeep
  | fuel + 1 => do
    let l ← expect (.symbol "(")
    argumentItems fuel l.line []

/-- The arguments still to come after those already read, which are given last first. -/
def argumentItems : Nat → Nat → List Arg → Parser (List Arg)
  | 0, _, _ => tooDeep
  | fuel + 1, line, seen => do
    if ← skip (.symbol ")") then return seen.reverse
    unless seen.isEmpty do discard (expect (.symbol ","))
    if ← skip (.symbol ")") then return seen.reverse
    let ensure (ok : Bool) : Parser Unit :=
      if ok then return () else failAt line "invalid syntax for function call expression"
    let keyworded := seen.any fun | .keyword .. => true | _ => false
    let spread := seen.any fun | .spread _ => true | _ => false
    let spreadKeywords := seen.any fun | .spreadKeywords _ => true | _ => false
    match ← peek with
    | .symbol "*" => do
      ensure (!spread && !spreadKeywords)
      discard advance
      argumentItems fuel line (.spread (← expression fuel true) :: seen)
    | .symbol "**" => do
      ensure (!spreadKeywords)
      discard advance
      argumentItems fuel line (.spreadKeywords (← expression fuel true) :: seen)
    | .name n => do
      if (← peekNext) = .symbol "=" then
        ensure (!spreadKeywords)
        discard advance
        discard advance
        argumentItems fuel line (.keyword n (← expression fuel true) :: seen)
      else
        ensure (!spread && !spreadKeywords && !keyworded)
        argumentItems fuel line (.value (← expression fuel true) :: seen)
    | _ => do
      ensure (!spread && !spreadKeywords && !keyworded)
      argumentItems fuel line (.value (← expression fuel true) :: seen)

/-- Filters, tests and calls after an expression. -/
def filters : Nat → Expr → Parser Expr
  | 0, _ => tooDeep
  | fuel + 1, e => do
    match ← peek with
    | .symbol "|" => do
      discard advance
      let name ← dottedName fuel (← expectName)
      let args ← if (← peek) = .symbol "(" then arguments fuel else pure []
      filters fuel (.filter e name args)
    | .name "is" => do
      discard advance
      let negated ← skip (.name "not")
      let name ← dottedName fuel (← expectName)
      let args ← testArguments fuel
      filters fuel (if negated then .not (.test e name args) else .test e name args)
    | .symbol "(" => do filters fuel (.call e (← arguments fuel))
    | _ => return e

/-- The arguments of a test: in parentheses, or a single one without. -/
def testArguments : Nat → Parser (List Arg)
  | 0 => tooDeep
  | fuel + 1 => do
    let single : Parser (List Arg) := do
      let e ← postfixes fuel (← primary fuel)
      return [.value e]
    match ← peek with
    | .symbol "(" => arguments fuel
    | .name n =>
      if n = "else" ∨ n = "or" ∨ n = "and" then return []
      else if n = "is" then fail "You cannot chain multiple tests with is"
      else single
    | .string _ | .integer _ | .float _ => single
    | .symbol s => if s = "[" ∨ s = "\x7b" then single else return []
    | _ => return []

end

/-- An expression that can be assigned to. -/
def target (fuel : Nat) (closers : List String) : Parser Target := do
  let line := (← current).line
  let e ← tupleOf fuel { primaries := true, closers }
  match e.target? with
  | some t => return t
  | none => failAt line ("can't assign to " ++ quoted e.kindWord)

/-- The complaint about a tag in the wrong place, or about the end of the template when a tag is
still awaited. -/
def misplaced {α : Type} (name : Option String) (awaited : List (List String)) (line : Nat) :
    Parser α := do
  let looking : Option String :=
    awaited.head?.map fun ends => String.intercalate " or " (ends.map quoted)
  let first := match name with
    | none => "Unexpected end of template."
    | some n => "Encountered unknown tag " ++ quoted n ++ "."
  let second := match looking with
    | none => []
    | some l =>
      if name.any fun n => awaited.any (·.contains n) then
        ["You probably made a nesting mistake. Jinja is expecting this tag, but currently " ++
          "looking for " ++ l ++ "."]
      else ["Jinja was looking for the following tags: " ++ l ++ "."]
  let third := match (← get).openTags with
    | [] => []
    | tag :: _ => ["The innermost block that needs to be closed is " ++ quoted tag ++ "."]
  failAt line (String.intercalate " " (first :: second ++ third))

mutual

/-- The statements up to one of the awaited tags, or up to the end where none is awaited. The tag
itself is left to the caller. -/
def statements : Nat → List String → Parser (List Stmt)
  | 0, _ => tooDeep
  | fuel + 1, ends => do
    match ← peek with
    | .eof => return []
    | .data s => do
      discard advance
      return .text s :: (← statements fuel ends)
    | .printBegin => do
      discard advance
      let e ← tupleOf fuel {}
      discard (expect .printEnd)
      return .print e :: (← statements fuel ends)
    | _ => do
      discard advance
      let here : Bool ← do
        match ← peek with
        | .name n => pure (ends.contains n)
        | _ => pure false
      if here then return []
      let s ← statement fuel
      discard (expect .blockEnd)
      return s :: (← statements fuel ends)

/-- The body of a block, from the end of its opening tag up to one of the awaited tags. -/
def body : Nat → List String → Parser (List Stmt)
  | 0, _ => tooDeep
  | fuel + 1, ends => do
    discard (skip (.symbol ":"))
    discard (expect .blockEnd)
    modify fun p => { p with awaited := ends :: p.awaited }
    let b ← statements fuel ends
    modify fun p => { p with awaited := p.awaited.tail }
    if (← peek) = .eof then
      misplaced none (ends :: (← get).awaited) (← current).line
    return b

/-- One statement, from its name up to the end of its last tag. -/
def statement : Nat → Parser Stmt
  | 0 => tooDeep
  | fuel + 1 => do
    let l ← current
    match l.token with
    | .name tag => do
      if ["for", "if", "set", "include"].contains tag then
        modify fun p => { p with openTags := tag :: p.openTags }
        discard advance
        let s ←
          if tag = "for" then loop fuel
          else if tag = "if" then do
            let (branches, otherwise) ← branches fuel
            pure (Stmt.choose branches otherwise)
          else if tag = "set" then assignment fuel
          else inclusion fuel
        modify fun p => { p with openTags := p.openTags.tail }
        return s
      else misplaced (some tag) (← get).awaited l.line
    | _ => failAt l.line "tag name expected"

def loop : Nat → Parser Stmt
  | 0 => tooDeep
  | fuel + 1 => do
    let t ← target fuel ["in"]
    discard (expect (.name "in"))
    let source ← tupleOf fuel { conditional := false, closers := ["recursive"] }
    let condition ← if ← skip (.name "if") then some <$> expression fuel true else pure none
    discard (skip (.name "recursive"))
    let inner ← body fuel ["endfor", "else"]
    let l ← advance
    if l.token = .name "endfor" then return .each t source condition inner []
    let otherwise ← body fuel ["endfor"]
    discard advance
    return .each t source condition inner otherwise

/-- The branches of an `if`, from its first condition on, and its `else` part. -/
def branches : Nat → Parser (List (Expr × List Stmt) × List Stmt)
  | 0 => tooDeep
  | fuel + 1 => do
    let test ← tupleOf fuel { conditional := false }
    let inner ← body fuel ["elif", "else", "endif"]
    let l ← advance
    if l.token = .name "elif" then
      let (more, otherwise) ← branches fuel
      return ((test, inner) :: more, otherwise)
    else if l.token = .name "else" then
      let otherwise ← body fuel ["endif"]
      discard advance
      return ([(test, inner)], otherwise)
    else return ([(test, inner)], [])

def assignment : Nat → Parser Stmt
  | 0 => tooDeep
  | fuel + 1 => do
    let t ← target fuel []
    if ← skip (.symbol "=") then return .assign t (← tupleOf fuel {})
    let inner ← body fuel ["endset"]
    discard advance
    return .capture t inner

def inclusion : Nat → Parser Stmt
  | 0 => tooDeep
  | fuel + 1 => do
    let e ← expression fuel true
    let ignoreMissing ← pair ["ignore"] "missing"
    let without := (← peek) = .name "without"
    let context ← pair ["with", "without"] "context"
    return .embed e ignoreMissing.isSome !(context.isSome && without)
where
  /-- Step over two names, one of the first ones and the second. -/
  pair (first : List String) (second : String) : Parser (Option Unit) := do
    match ← peek with
    | .name n =>
      if first.contains n then
        if (← peekNext) = .name second then
          discard advance
          discard advance
          return some ()
        else return none
      else return none
    | _ => return none

end

end Parser

/-- Read the source of a template. -/
def parse (source : String) : Except SyntaxFault (List Stmt) :=
  let stream := tokens source
  let start : Progress := ⟨stream.lexemes, stream.fault, 1, [], []⟩
  match Parser.settle start with
  | .error f => .error f
  | .ok p => (Parser.statements (20 * (stream.lexemes.length + 2)) [] p).map (·.1)

end DeferredViews.Template
