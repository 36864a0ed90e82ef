import DeferredViews.Yaml.Cursor

/-!
# Tokens of a document

Tokens say what a document is made of before its nodes are put together. Indentation shows as
tokens that open and close block collections; so does every key, also one that no mark announces.
-/
namespace DeferredViews.Yaml

/-- What a directive before a document says. -/
inductive Directive where
  | version (major : Nat)
  | handle (name : String) (meaning : String)
  | other
  deriving DecidableEq, Repr

inductive Token where
  | directive (d : Directive)
  | documentStart
  | documentEnd
  | blockSequence
  | blockMapping
  | blockEnd
  | blockEntry
  | flowSequence
  | flowSequenceEnd
  | flowMapping
  | flowMappingEnd
  | flowEntry
  | key
  | value
  | alias (name : String)
  | anchor (name : String)
  /-- A tag: the handle, if it has one, and what follows. -/
  | tag (handle : Option String) (suffix : String)
  | scalar (text : String) (plain : Bool)
  deriving DecidableEq, Repr

/-- A token and where it was found. -/
structure Placed where
  token : Token
  place : Cursor

end DeferredViews.Yaml
