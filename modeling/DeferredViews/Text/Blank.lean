import DeferredViews.Text.CharSet

/-!
# Blank characters

The characters that separate words: Unicode white space together with the four information
separators U+001C to U+001F. Trimming and the spaces inside template tags use this one set.
-/
namespace DeferredViews.Text

/-- Unicode white space and the information separators. -/
def blanks : CharSet := ⟨[
  0x9, 0xe, 0x1c, 0x21, 0x85, 0x86, 0xa0, 0xa1, 0x1680, 0x1681, 0x2000, 0x200b,
  0x2028, 0x202a, 0x202f, 0x2030, 0x205f, 0x2060, 0x3000, 0x3001]⟩

def isBlank (c : Char) : Bool := blanks.contains c

/-- Drop blank characters from the end. -/
def trimEnd (s : List Char) : List Char := (s.reverse.dropWhile isBlank).reverse

/-- Drop blank characters from both ends. -/
def trim (s : List Char) : List Char := trimEnd (s.dropWhile isBlank)

end DeferredViews.Text
