/-!
# Searching and splitting text

Occurrences of a pattern are found from the left and do not overlap. Cutting at the first
occurrence is the one search primitive; splitting and replacing repeat it.
-/
namespace DeferredViews.Text

/-- What follows `pattern` at the start of the text. -/
def dropPattern? : List Char → List Char → Option (List Char)
  | [], s => some s
  | _ :: _, [] => none
  | p :: ps, c :: cs => if p = c then dropPattern? ps cs else none

theorem dropPattern?_eq_some {p s r : List Char} : dropPattern? p s = some r ↔ s = p ++ r := by
  induction p generalizing s with
  | nil => simp [dropPattern?, eq_comm]
  | cons a p ih =>
    cases s with
    | nil => simp [dropPattern?]
    | cons c s =>
      by_cases h : a = c
      · simp [dropPattern?, h, ih]
      · simp [dropPattern?, h, Ne.symm h]

/-- The text before the first occurrence of the pattern and the text after it. -/
def cutAt (pattern : List Char) : List Char → Option (List Char × List Char)
  | [] => if pattern.isEmpty then some ([], []) else none
  | c :: cs =>
    match dropPattern? pattern (c :: cs) with
    | some rest => some ([], rest)
    | none => (cutAt pattern cs).map fun (a, b) => (c :: a, b)

theorem cutAt_append {p s a b : List Char} (h : cutAt p s = some (a, b)) : s = a ++ p ++ b := by
  induction s generalizing a b with
  | nil =>
    cases p with
    | nil => simp_all [cutAt]
    | cons => simp [cutAt] at h
  | cons c s ih =>
    rw [cutAt] at h
    split at h
    · next r hr =>
      obtain ⟨rfl, rfl⟩ := Prod.mk.inj (Option.some.inj h)
      simpa using dropPattern?_eq_some.mp hr
    · obtain ⟨⟨a', b'⟩, hab, heq⟩ := Option.map_eq_some_iff.mp h
      obtain ⟨rfl, rfl⟩ := Prod.mk.inj heq
      simp [ih hab]

/-- Whether the pattern occurs in the text. -/
def occurs (pattern s : List Char) : Bool := (cutAt pattern s).isSome

/-- Replace the first `count` occurrences; an empty pattern occurs before every character and at
the end. Without a count every occurrence is replaced. -/
def replace (old new : List Char) (count : Option Nat) (s : List Char) : List Char :=
  if old.isEmpty then between (count.getD (s.length + 1)) s
  else go (count.getD s.length) (s.length + 1) s
where
  between : Nat → List Char → List Char
    | 0, s => s
    | _ + 1, [] => new
    | n + 1, c :: cs => new ++ c :: between n cs
  go : Nat → Nat → List Char → List Char
    | 0, _, s => s
    | _, 0, s => s
    | n + 1, fuel + 1, s =>
      match cutAt old s with
      | none => s
      | some (a, b) => a ++ new ++ go n fuel b

/-- The pieces between the separating characters; always at least one piece. -/
def splitOn (sep : Char → Bool) : List Char → List (List Char)
  | [] => [[]]
  | c :: cs =>
    if sep c then [] :: splitOn sep cs
    else
      match splitOn sep cs with
      | [] => [[c]]
      | piece :: more => (c :: piece) :: more

theorem splitOn_ne_nil (sep : Char → Bool) (s : List Char) : splitOn sep s ≠ [] := by
  cases s with
  | nil => simp [splitOn]
  | cons c s =>
    rw [splitOn]
    split
    · simp
    · split <;> simp

/-- Lay a separator between the pieces. -/
def joinWith (sep : List Char) : List (List Char) → List Char
  | [] => []
  | [p] => p
  | p :: q :: more => p ++ sep ++ joinWith sep (q :: more)

/-- The index of the last occurrence of a character. -/
def lastIndexOf? (c : Char) (s : List Char) : Option Nat :=
  (s.reverse.findIdx? (· == c)).map (s.length - 1 - ·)

end DeferredViews.Text
