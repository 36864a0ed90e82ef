import DeferredViews.Files.Tree
import DeferredViews.Value.Basic

/-!
# Faults

Everything that can go wrong while a template or a helper runs, as causes. The wording of each
cause is fixed here and nowhere else.
-/
namespace DeferredViews

open Text

/-- The wording for a value that was looked up in vain. -/
def Missing.message : Missing → String
  | .name n => quoted n ++ " is undefined"
  | .member owner n => quoted owner ++ " has no attribute " ++ quoted n
  | .element owner key => owner ++ " has no element " ++ key
  | .noFirst => "No first item, sequence was empty."
  | .noLast => "No last item, sequence was empty."
  | .noElse place =>
    "the inline if-expression on " ++ place ++
      " evaluated to false and no else section was defined."

/-- A value of a type that an operation does not take. -/
inductive TypeFault where
  | operands (op left right : String)
  | unary (op operand : String)
  | order (op left right : String)
  | concatenate (sequence other : String)
  | repetition (other : String)
  | notIterable (type : String)
  | notReversible (type : String)
  | notCallable (type : String)
  | noLength (type : String)
  | noContainer (type : String)
  | memberOfText (type : String)
  | unhashable (type : String)
  | notUnpackable (type : String)
  | notSubscriptable (type : String)
  | sliceBound
  | arguments (text : String)
  | format (text : String)
  deriving DecidableEq, Repr

def TypeFault.message : TypeFault → String
  | .operands op l r => "unsupported operand type(s) for " ++ op ++ ": '" ++ l ++ "' and '" ++ r ++ "'"
  | .unary op t => "bad operand type for unary " ++ op ++ ": '" ++ t ++ "'"
  | .order op l r =>
    "'" ++ op ++ "' not supported between instances of '" ++ l ++ "' and '" ++ r ++ "'"
  | .concatenate s t =>
    "can only concatenate " ++ s ++ " (not \"" ++ t ++ "\") to " ++ s
  | .repetition t => "can't multiply sequence by non-int of type '" ++ t ++ "'"
  | .notIterable t => "'" ++ t ++ "' object is not iterable"
  | .notReversible t => "'" ++ t ++ "' object is not reversible"
  | .notCallable t => "'" ++ t ++ "' object is not callable"
  | .noLength t => "object of type '" ++ t ++ "' has no len()"
  | .noContainer t => "argument of type '" ++ t ++ "' is not iterable"
  | .memberOfText t => "'in <string>' requires string as left operand, not " ++ t
  | .unhashable t => "unhashable type: '" ++ t ++ "'"
  | .notUnpackable t => "cannot unpack non-iterable " ++ t ++ " object"
  | .notSubscriptable t => "'" ++ t ++ "' object is not subscriptable"
  | .sliceBound => "slice indices must be integers or None or have an __index__ method"
  | .arguments text => text
  | .format text => text

/-- The operation that was asked to divide by zero. -/
inductive ZeroDivision where
  | integers
  | integerFloor
  | integerRemainder
  | floats
  | floatFloor
  | floatRemainder
  | negativePower
  deriving DecidableEq, Repr

def ZeroDivision.message : ZeroDivision → String
  | .integers => "division by zero"
  | .integerFloor => "integer division or modulo by zero"
  | .integerRemainder => "integer modulo by zero"
  | .floats => "float division by zero"
  | .floatFloor => "float floor division by zero"
  | .floatRemainder => "float modulo"
  | .negativePower => "0.0 cannot be raised to a negative power"

/-- A number too large for its type. -/
inductive Overflow where
  | intToFloat
  | quotient
  | power
  | infinityToInt
  | codePoint
  | character
  deriving DecidableEq, Repr

def Overflow.message : Overflow → String
  | .intToFloat => "int too large to convert to float"
  | .quotient => "integer division result too large for a float"
  | .power => "(34, 'Numerical result out of range')"
  | .infinityToInt => "cannot convert float infinity to integer"
  | .character => "%c arg not in range(0x110000)"
  | .codePoint => "Python int too large to convert to C int"

/-- The kinds of error that a helper may raise on purpose. -/
inductive RaisedKind where
  | runtime
  | value
  | key
  | lookup
  | general
  deriving DecidableEq, Repr

/-- Why a template is refused before it runs, with the line at fault. -/
structure SyntaxFault where
  message : String
  line : Nat
  /-- The template is well formed but names something that does not exist. -/
  assertion : Bool := false
  deriving DecidableEq, Repr

inductive Fault where
  | undefined (why : Missing)
  | type (why : TypeFault)
  | zeroDivision (how : ZeroDivision)
  | overflow (how : Overflow)
  | value (message : String)
  | index (message : String)
  | key (shown : String)
  | noMember (type name : String)
  | templateMissing (name : String)
  | templatesMissing (message : String)
  | syntaxError (e : SyntaxFault)
  | noSuch (kind name : String)
  | tooDeep
  | noRenderInProgress
  | unreadable (why : Files.ReadError)
  /-- A document that breaks the rules of its format. -/
  | malformed (problem : String)
  | noConfiguration (path : String)
  | raised (kind : RaisedKind) (message : Option String)
  deriving DecidableEq, Repr

namespace Fault

/-- The text of a fault. The argument of a key error is shown quoted. -/
def message : Fault → String
  | undefined why => why.message
  | type why => why.message
  | zeroDivision how => how.message
  | overflow how => how.message
  | value m => m
  | index m => m
  | key shown => shown
  | noMember t n => "'" ++ t ++ "' object has no attribute '" ++ n ++ "'"
  | templateMissing name => name
  | templatesMissing m => m
  | syntaxError e => e.message
  | noSuch kind name => "No " ++ kind ++ " named " ++ quoted name ++ " found."
  | tooDeep => "maximum recursion depth exceeded"
  | noRenderInProgress => "Async helpers can only be resolved during a render call"
  | unreadable (.file e) => e.message
  | unreadable (.decode e) => e.message
  | malformed problem => problem
  | noConfiguration path => "Config file not found: " ++ path
  | raised .key (some m) => quoted m
  | raised _ (some m) => m
  | raised _ none => ""

/-- The class of a fault, as answers and logs name it. -/
def kind : Fault → String
  | undefined _ => "UndefinedError"
  | type _ => "TypeError"
  | zeroDivision _ => "ZeroDivisionError"
  | overflow _ => "OverflowError"
  | value _ => "ValueError"
  | index _ => "IndexError"
  | key _ => "KeyError"
  | noMember .. => "AttributeError"
  | templateMissing _ => "TemplateNotFound"
  | templatesMissing _ => "TemplatesNotFound"
  | syntaxError e => if e.assertion then "TemplateAssertionError" else "TemplateSyntaxError"
  | noSuch .. => "TemplateRuntimeError"
  | tooDeep => "RecursionError"
  | noRenderInProgress => "RuntimeError"
  | unreadable (.file e) => e.fault.kind
  | unreadable (.decode _) => "UnicodeDecodeError"
  | malformed _ => "YAMLError"
  | noConfiguration _ => "FileNotFoundError"
  | raised .runtime _ => "RuntimeError"
  | raised .value _ => "ValueError"
  | raised .key _ => "KeyError"
  | raised .lookup _ => "LookupError"
  | raised .general _ => "Exception"

end Fault

/-- What ends a computation before its time: a fault, or the cancellation of its task, for which
the one who cancels may give a message. -/
inductive Interrupt where
  | fault (f : Fault)
  | cancelled (message : String)
  deriving DecidableEq, Repr

/-- A computation over a state: it ends with a value or an interrupt, and keeps the state that it
reached in both cases. -/
abbrev Action (σ : Type) := ExceptT Interrupt (StateM σ)

namespace Action

variable {σ α : Type}

def fail (f : Fault) : Action σ α := throw (.fault f)

/-- A result that may be a fault, as a computation. -/
def ofExcept : Except Fault α → Action σ α
  | .ok a => pure a
  | .error f => fail f

end Action
end DeferredViews
