import DeferredViews.Text.CaseTable

/-!
# Upper, lower and title case

Case changes map each letter to its full image, which may have several letters. One rule looks at
the neighbours: a capital sigma that ends a word becomes the final small sigma.
-/
namespace DeferredViews.Text

/-- Whether a run lists the code point. -/
def CaseRun.lists (r : CaseRun) (n : Nat) : Bool :=
  r.first ≤ n && n ≤ r.last && (n - r.first) % r.step == 0

/-- The image of a letter: its special image, else its image in a run, else the letter itself. -/
def mapCase (special : List (Nat × List Nat)) (runs : List CaseRun) (c : Char) : List Char :=
  match special.lookup c.toNat with
  | some image => image.map Char.ofNat
  | none =>
    match runs.find? (·.lists c.toNat) with
    | some r => [Char.ofNat (c.toNat + r.shift).toNat]
    | none => [c]

def upperChar (c : Char) : List Char :=
  if c.toNat < 128 then [c.toUpper] else mapCase upperSpecial upperRuns c

def lowerChar (c : Char) : List Char :=
  if c.toNat < 128 then [c.toLower] else mapCase lowerSpecial lowerRuns c

/-- The title case of a letter is its upper case unless the table says otherwise. -/
def titleChar (c : Char) : List Char :=
  match titleSpecial.lookup c.toNat with
  | some image => image.map Char.ofNat
  | none => upperChar c

def upper (s : List Char) : List Char := s.flatMap upperChar

/-- The nearest character that is not stepped over has case. -/
def casedNext (s : List Char) : Bool :=
  match s.dropWhile caseIgnorable.contains with
  | [] => false
  | c :: _ => cased.contains c

/-- Lower case of a text that follows `before`, which is given last character first. -/
def lowerAfter (before : List Char) : List Char → List Char
  | [] => []
  | c :: rest =>
    let image :=
      if c = 'Σ' then [if casedNext before && !casedNext rest then 'ς' else 'σ']
      else lowerChar c
    image ++ lowerAfter (c :: before) rest

def lower (s : List Char) : List Char := lowerAfter [] s

/-- The first letter in title case and the others in lower case. -/
def capitalize : List Char → List Char
  | [] => []
  | c :: rest => titleChar c ++ lowerAfter [c] rest

end DeferredViews.Text
