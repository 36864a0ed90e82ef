import DeferredViews.Text.Digit

/-!
# Placeholders

A placeholder stands in a page for a value that is not known yet. It holds the id of the render
that issued it and a number, between two delimiters that ordinary text does not have. A page is
scanned once from the left for whole placeholders; those with a value are replaced by it, and
values are not scanned again.
-/
namespace DeferredViews.Deferred

open Text

/-- The character on both ends of a placeholder. -/
def delimiter : Char := '\x1a'

/-- Whether a text contains the delimiter. -/
def tainted (s : List Char) : Bool := s.contains delimiter

/-- The placeholder of a number issued under an id. -/
def placeholder (id : String) (number : Nat) : String :=
  String.ofList (delimiter :: id.toList ++ ':' :: toDecimal number ++ [delimiter])

/-- The characters of an id: lower-case hexadecimal digits. -/
def isIdChar (c : Char) : Bool := ('0' ≤ c && c ≤ '9') || ('a' ≤ c && c ≤ 'f')

/-- The inside of a placeholder with its closing delimiter, and what follows. -/
def readInside (s : List Char) : Option (List Char × List Char) :=
  match s.takeWhile isIdChar, s.dropWhile isIdChar with
  | c :: id, ':' :: rest =>
    match rest.takeWhile isDigit, rest.dropWhile isDigit with
    | d :: number, e :: after =>
      if e = delimiter then some (c :: id ++ ':' :: d :: number ++ [delimiter], after) else none
    | _, _ => none
  | _, _ => none

theorem readInside_append {s inside after : List Char} (h : readInside s = some (inside, after)) :
    s = inside ++ after := by
  unfold readInside at h
  split at h
  · next c id rest h1 h2 =>
    split at h
    · next d number e after' h3 h4 =>
      split at h
      · next he =>
        obtain ⟨rfl, rfl⟩ := Prod.mk.inj (Option.some.inj h)
        have hs := List.takeWhile_append_dropWhile (p := isIdChar) (l := s)
        have hr := List.takeWhile_append_dropWhile (p := isDigit) (l := rest)
        rw [h1, h2] at hs
        rw [h3, h4, he] at hr
        rw [← hs, ← hr]
        simp
      · simp at h
    · simp at h
  · simp at h

/-- A page is a row of plain characters and whole placeholders. -/
inductive Piece where
  | plain (c : Char)
  | placeholder (inside : List Char)
  deriving DecidableEq, Repr

/-- The characters of a piece; a placeholder starts with the delimiter, which is not stored. -/
def Piece.chars : Piece → List Char
  | .plain c => [c]
  | .placeholder inside => delimiter :: inside

/-- Take a page apart, from the left. -/
def pieces : List Char → List Piece
  | [] => []
  | c :: rest =>
    if c = delimiter then
      match _h : readInside rest with
      | some (inside, after) => .placeholder inside :: pieces after
      | none => .plain c :: pieces rest
    else .plain c :: pieces rest
  termination_by s => s.length
  decreasing_by
    · have := congrArg List.length (readInside_append _h)
      simp at this ⊢
      omega
    · simp
    · simp

/-- Nothing is lost in taking a page apart. -/
theorem pieces_flatMap_chars (s : List Char) : (pieces s).flatMap Piece.chars = s := by
  fun_induction pieces s with
  | case1 => rfl
  | case2 rest inside after h ih =>
    simp [Piece.chars, ih, ← readInside_append h]
  | case3 rest h ih => simp [Piece.chars, ih]
  | case4 c rest h ih => simp [Piece.chars, ih]

/-- The value of a placeholder, or the placeholder itself if it has none. -/
def Piece.resolve (values : List (String × String)) : Piece → List Char
  | .plain c => [c]
  | .placeholder inside =>
    match values.lookup (String.ofList (delimiter :: inside)) with
    | some v => v.toList
    | none => delimiter :: inside

/-- Replace the placeholders of a page by their values. -/
def substitute (values : List (String × String)) (page : String) : String :=
  String.ofList ((pieces page.toList).flatMap (Piece.resolve values))

/-- Without values a page stays as it is. -/
theorem substitute_nil (page : String) : substitute [] page = page := by
  have h : (pieces page.toList).flatMap (Piece.resolve []) =
      (pieces page.toList).flatMap Piece.chars := by
    congr 1
  simp [substitute, h, pieces_flatMap_chars]

end DeferredViews.Deferred
