import DeferredViews.Fault
import DeferredViews.Number.Double

/-!
# Tokens of a template

A template is literal text, tags that print an expression, and tags that hold a statement. Inside
a tag stand names, literals and symbols.
-/
namespace DeferredViews.Template

open Number

inductive Token where
  | data (text : String)
  | printBegin
  | printEnd
  | blockBegin
  | blockEnd
  | name (s : String)
  | string (s : String)
  | integer (n : Nat)
  | float (x : Double)
  | symbol (s : String)
  | eof
  deriving DecidableEq, Repr

/-- A token and the line on which it starts. -/
structure Lexeme where
  token : Token
  line : Nat
  deriving DecidableEq, Repr

/-- The tokens of a template up to its end or up to the first place that cannot be read. -/
structure Stream where
  lexemes : List Lexeme
  fault : Option SyntaxFault
  deriving DecidableEq, Repr

def Stream.push (line : Nat) (t : Token) (s : Stream) : Stream :=
  { s with lexemes := ⟨t, line⟩ :: s.lexemes }

/-- How messages name a token: names and symbols by their text, the others by their kind. -/
def Token.describe : Token → String
  | data _ => "template data / text"
  | printBegin => "begin of print statement"
  | printEnd => "end of print statement"
  | blockBegin => "begin of statement block"
  | blockEnd => "end of statement block"
  | name s => s
  | string _ => "string"
  | integer _ => "integer"
  | float _ => "float"
  | symbol s => s
  | eof => "end of template"

end DeferredViews.Template
