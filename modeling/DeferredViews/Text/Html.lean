/-!
# Escaping for HTML

The five characters with a meaning in HTML are written as character references; every other
character stands for itself, so escaping goes character by character.
-/
namespace DeferredViews.Text

def escapeHtmlChar : Char → List Char
  | '&' => "&amp;".toList
  | '<' => "&lt;".toList
  | '>' => "&gt;".toList
  | '\'' => "&#39;".toList
  | '"' => "&#34;".toList
  | c => [c]

def escapeHtml (s : List Char) : List Char := s.flatMap escapeHtmlChar

/-- The escaped form of a text. -/
def escaped (s : String) : String := String.ofList (escapeHtml s.toList)

end DeferredViews.Text
