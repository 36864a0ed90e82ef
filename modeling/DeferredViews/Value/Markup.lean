import DeferredViews.Text.Html
import DeferredViews.Text.Search
import DeferredViews.Value.Text

/-!
# Markup

Markup is text that is already HTML. Printing escapes every value but markup; joining text to
markup escapes the text and yields markup.
-/
namespace DeferredViews.Value

open Text

/-- The HTML that prints a value. -/
def html : Value → String
  | markup s => s
  | v => escaped v.text

@[simp] theorem html_markup (s : String) : (markup s).html = s := rfl

@[simp] theorem html_str (s : String) : (str s).html = escaped s := rfl

/-- What a template prints for a value, escaped or not. -/
def printed (autoescape : Bool) (v : Value) : String := if autoescape then v.html else v.text

/-- Put texts and markup side by side: with markup among them, the other parts are escaped. -/
def concatenate (autoescape : Bool) (parts : List Value) : Value :=
  if autoescape && parts.any isMarkup then markup (String.join (parts.map html))
  else str (String.join (parts.map text))

/-- Apply a change of characters to a text, keeping markup markup. -/
def mapText (f : List Char → List Char) : Value → Value
  | markup s => markup (String.ofList (f s.toList))
  | v => str (String.ofList (f v.text.toList))

/-- Lay a separator between values. The separator, if it is markup, makes the result markup; else
markup among the values does. -/
def joined (autoescape : Bool) (separator : Value) (items : List Value) : Value :=
  if !autoescape then str (String.intercalate separator.text (items.map text))
  else if separator.isMarkup || items.any isMarkup then
    markup (String.intercalate separator.html (items.map html))
  else str (String.intercalate separator.text (items.map text))

/-- Replace text in a value. With escaping on, markup as the old text, or as the new text for a
plain value, first turns the value into markup; in markup the new text is escaped. -/
def replaced (autoescape : Bool) (old new : Value) (count : Option Nat) (v : Value) : Value :=
  if !autoescape then
    str (String.ofList (replace old.text.toList new.text.toList count v.text.toList))
  else if v.isMarkup || old.isMarkup || new.isMarkup then
    markup (String.ofList (replace old.text.toList new.html.toList count v.html.toList))
  else str (String.ofList (replace old.text.toList new.text.toList count v.text.toList))

end DeferredViews.Value
