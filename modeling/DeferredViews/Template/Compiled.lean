import DeferredViews.Template.Names
import DeferredViews.Template.Parser

/-!
# Compiled templates

A source is compiled by reading it into a tree, and then folding the constants of the tree and
checking the names it relies on. A template that other templates include knows its own name.
-/
namespace DeferredViews

structure Template where
  name : Option String
  body : List Template.Stmt

namespace Template

/-- Make the template of a tree, or say why it is refused. -/
def generate (autoescape : Bool) (name : Option String) (tree : List Stmt) :
    Except SyntaxFault Template := do
  let body := foldStatements autoescape tree
  checkStatements false body
  .ok ⟨name, body⟩

/-- Compile a source, or say why it is refused. -/
def compile (autoescape : Bool) (name : Option String) (source : String) :
    Except SyntaxFault Template := do
  generate autoescape name (← parse source)

/-- A template language, as far as compiling goes: a source is read into a tree, and code is
generated from the tree. Both know whether printed values are to be escaped, and may fail. -/
structure Language (Tree Code : Type) where
  read : Bool → String → Except Fault Tree
  generate : Bool → Option String → Tree → Except Fault Code

namespace Language

/-- The language of the templates that are run here. -/
def standard : Language (List Stmt) Template where
  read _ source := (parse source).mapError .syntaxError
  generate autoescape name tree := (Template.generate autoescape name tree).mapError .syntaxError

theorem standard_read (autoescape : Bool) (source : String) :
    standard.read autoescape source = (parse source).mapError .syntaxError := rfl

/-- Compile a source of a language. -/
def compile {Tree Code : Type} (l : Language Tree Code) (autoescape : Bool) (name : Option String)
    (source : String) : Except Fault Code := do
  l.generate autoescape name (← l.read autoescape source)

/-- What is compiled here is compiled as the language says. -/
theorem compile_standard (autoescape : Bool) (name : Option String) (source : String) :
    standard.compile autoescape name source =
      (Template.compile autoescape name source).mapError .syntaxError := by
  show ((parse source).mapError Fault.syntaxError).bind (fun tree =>
      (Template.generate autoescape name tree).mapError .syntaxError) =
    ((parse source).bind (Template.generate autoescape name)).mapError .syntaxError
  cases parse source <;> rfl

end Language
end Template
end DeferredViews
