import DeferredViews.Deferred.Activity
import DeferredViews.Proofs.Reading

/-!
# Pages as rows of characters and places

A page that was printed without looking into placeholders is a row of characters and of places for
the values of calls. The id under which its placeholders were issued is no part of it, and to
substitute values is to fill its places.
-/
namespace DeferredViews.Deferred

open Text

/-- What stands in a row: a character, or the place for the value of a numbered call. -/
inductive Mark where
  | plain (c : Char)
  | slot (n : Nat)
  deriving DecidableEq, Repr

/-- The characters of a mark on a page. -/
def Mark.onPage (id : String) : Mark → List Char
  | .plain c => [c]
  | .slot n => (placeholder id n).toList

/-- The characters of a mark once its place is filled. -/
def Mark.inside (fill : Nat → String) : Mark → List Char
  | .plain c => [c]
  | .slot n => (fill n).toList

abbrev Row := List Mark

namespace Row

/-- The page of a row, with placeholders of an id. -/
def text (id : String) (row : Row) : String := String.ofList (row.flatMap (Mark.onPage id))

/-- A row with texts in its places. -/
def filled (fill : Nat → String) (row : Row) : String :=
  String.ofList (row.flatMap (Mark.inside fill))

/-- No character of the row is a delimiter. -/
def Clean (row : Row) : Prop := Mark.plain delimiter ∉ row

/-- A text as a row without places. -/
def ofText (s : String) : Row := s.toList.map .plain

@[simp] theorem text_nil (id : String) : text id [] = "" := rfl

@[simp] theorem filled_nil (fill : Nat → String) : filled fill [] = "" := rfl

theorem text_append (id : String) (row more : Row) :
    text id (row ++ more) = text id row ++ text id more := by
  rw [text, List.flatMap_append, String.ofList_append]
  rfl

theorem filled_append (fill : Nat → String) (row more : Row) :
    filled fill (row ++ more) = filled fill row ++ filled fill more := by
  rw [filled, List.flatMap_append, String.ofList_append]
  rfl

theorem text_slot (id : String) (n : Nat) : text id [.slot n] = placeholder id n := by
  simp [text, Mark.onPage]

theorem filled_slot (fill : Nat → String) (n : Nat) : filled fill [.slot n] = fill n := by
  simp [filled, Mark.inside]

theorem flatMap_ofText {f : Mark → List Char} (hf : ∀ c, f (.plain c) = [c]) (s : String) :
    (ofText s).flatMap f = s.toList := by
  rw [ofText, List.flatMap_map]
  simp only [hf, List.flatMap_singleton']

theorem text_ofText (id s : String) : text id (ofText s) = s := by
  rw [text, flatMap_ofText (fun _ => rfl), String.ofList_toList]

theorem filled_ofText (fill : Nat → String) (s : String) : filled fill (ofText s) = s := by
  rw [filled, flatMap_ofText (fun _ => rfl), String.ofList_toList]

theorem clean_append {row more : Row} (h : row.Clean) (k : more.Clean) :
    Row.Clean (row ++ more) := by
  rw [Clean, List.mem_append]
  rintro (hmem | hmem)
  · exact h hmem
  · exact k hmem

theorem clean_ofText {s : String} (h : tainted s.toList = false) : (ofText s).Clean := by
  intro hmem
  obtain ⟨c, hc, heq⟩ := List.mem_map.mp hmem
  cases heq
  rw [tainted, List.contains_eq_mem, decide_eq_false_iff_not] at h
  exact h hc

theorem slot_notMem_ofText (n : Nat) (s : String) : Mark.slot n ∉ ofText s := by
  intro hmem
  obtain ⟨c, -, heq⟩ := List.mem_map.mp hmem
  cases heq

/-- A clean row is taken apart into its marks. -/
theorem pieces_onPage {id : String} (hid : IsRegistryId id) {row : Row} (h : row.Clean) :
    pieces (row.flatMap (Mark.onPage id)) = row.map fun
      | .plain c => .plain c
      | .slot n => .placeholder (insideOf id n) := by
  induction row with
  | nil =>
    rw [List.flatMap_nil, pieces]
    rfl
  | cons mark row ih =>
    have hmore : Row.Clean row := fun hmem => h (List.mem_cons_of_mem _ hmem)
    rw [List.flatMap_cons, List.map_cons]
    cases mark with
    | plain c =>
      have hc : c ≠ delimiter := by
        rintro rfl
        exact h List.mem_cons_self
      have hone : tainted [c] = false := by
        rw [tainted_cons, decide_eq_false hc]
        rfl
      rw [Mark.onPage, pieces_append hone, ih hmore]
      rfl
    | slot n => rw [Mark.onPage, pieces_placeholder hid, ih hmore]

/-- To substitute values in the page of a clean row is to fill its places. -/
theorem substitute_text {id : String} (hid : IsRegistryId id) {row : Row} (h : row.Clean)
    (values : List (String × String)) :
    substitute values (row.text id) =
      row.filled fun n => (values.lookup (placeholder id n)).getD (placeholder id n) := by
  rw [substitute, text, String.toList_ofList, pieces_onPage hid h, filled, List.flatMap_map]
  congr 1
  refine congrArg (fun f => List.flatMap f row) ?_
  funext mark
  cases mark with
  | plain c => rfl
  | slot n =>
    rw [Mark.inside, Piece.resolve, ← toList_placeholder, String.ofList_toList]
    cases values.lookup (placeholder id n) <;> rfl

theorem filled_congr {fill fill' : Nat → String} {row : Row}
    (h : ∀ n, Mark.slot n ∈ row → fill n = fill' n) : row.filled fill = row.filled fill' := by
  rw [filled, filled]
  congr 1
  rw [List.flatMap_def, List.flatMap_def]
  refine congrArg List.flatten (List.map_congr_left fun mark hmem => ?_)
  cases mark with
  | plain c => rfl
  | slot n => rw [Mark.inside, Mark.inside, h n hmem]

/-- Texts without delimiters leave none in a clean row. -/
theorem tainted_filled {fill : Nat → String} {row : Row} (h : row.Clean)
    (hfill : ∀ n, Mark.slot n ∈ row → tainted (fill n).toList = false) :
    tainted (row.filled fill).toList = false := by
  rw [filled, String.toList_ofList, Reading.tainted_flatMap, List.any_eq_false]
  intro mark hmem
  cases mark with
  | plain c =>
    have hc : c ≠ delimiter := by
      rintro rfl
      exact h hmem
    rw [Mark.inside, tainted_cons, decide_eq_false hc]
    exact Bool.false_ne_true
  | slot n =>
    rw [Mark.inside, hfill n hmem]
    exact Bool.false_ne_true

end Row

/-- No two placeholders of registries are the same. -/
theorem placeholder_injective {id id' : String} (hid : IsRegistryId id) (hid' : IsRegistryId id')
    {n m : Nat} (h : placeholder id n = placeholder id' m) : id = id' ∧ n = m := by
  have hcolon : isIdChar ':' = false := by decide
  have hsame : insideOf id n = insideOf id' m := by
    have hlist := congrArg String.toList h
    rw [toList_placeholder, toList_placeholder] at hlist
    exact List.tail_eq_of_cons_eq hlist
  have htake : ∀ (u : String) (k : Nat), IsRegistryId u →
      (insideOf u k).takeWhile isIdChar = u.toList := by
    intro u k hu
    rw [insideOf, List.append_assoc, List.takeWhile_append_of_pos hu.digits, List.cons_append,
      List.takeWhile_cons_of_neg (by simp [hcolon]), List.append_nil]
  have hids : id.toList = id'.toList := by
    rw [← htake id n hid, ← htake id' m hid', hsame]
  rw [insideOf, insideOf, hids] at hsame
  have hdigits : toDecimal n = toDecimal m := by
    have hrest := List.append_cancel_right hsame
    exact List.tail_eq_of_cons_eq (List.append_cancel_left hrest)
  refine ⟨String.toList_inj.mp hids, ?_⟩
  have hn := Nat.ofDigitChars_ten_toDigits (n := n)
  have hm := Nat.ofDigitChars_ten_toDigits (n := m)
  rw [← hn, ← hm]
  exact congrArg (fun digits => Nat.ofDigitChars 10 digits 0) hdigits

/-- The calls have the placeholders of an id in order. -/
def Numbered (id : String) (calls : List Pending) : Prop :=
  ∀ i c, calls[i]? = some c → c.token = placeholder id i

/-- The values of calls are found under their numbers. -/
theorem lookup_numbered {id : String} (hid : IsRegistryId id) {calls : List Pending}
    (h : Numbered id calls) (f : Pending → String) (n : Nat) :
    (calls.map fun c => (c.token, f c)).lookup (placeholder id n) = calls[n]?.map f := by
  -- The calls from a number on have the placeholders from this number on.
  have hfrom : ∀ (k : Nat) (more : List Pending),
      (∀ i c, more[i]? = some c → c.token = placeholder id (k + i)) → ∀ m,
        (more.map fun c => (c.token, f c)).lookup (placeholder id (k + m)) = more[m]?.map f := by
    intro k more
    induction more generalizing k with
    | nil => exact fun _ _ => rfl
    | cons c more ih =>
      intro hmore m
      have hc : c.token = placeholder id k := hmore 0 c rfl
      rw [List.map_cons, List.lookup_cons]
      cases m with
      | zero =>
        rw [hc, Nat.add_zero, beq_self_eq_true]
        rfl
      | succ m =>
        have hne : (placeholder id (k + (m + 1)) == c.token) = false := by
          rw [beq_eq_false_iff_ne, hc]
          intro heq
          have hnumbers := (placeholder_injective hid hid heq).2
          omega
        have hnext := ih (k + 1) (fun i d hd => by
          rw [hmore (i + 1) d hd]
          congr 1
          omega) m
        rw [hne, List.getElem?_cons_succ, ← hnext]
        dsimp only
        congr 2
        omega
  have hall := hfrom 0 calls (fun i c hc => by rw [Nat.zero_add]; exact h i c hc) n
  rwa [Nat.zero_add] at hall

/-- One more call keeps the numbering. -/
theorem Numbered.push {id : String} {calls : List Pending} (h : Numbered id calls) {c : Pending}
    (hc : c.token = placeholder id calls.length) : Numbered id (calls ++ [c]) := by
  intro i d hd
  rcases Nat.lt_trichotomy i calls.length with hlt | heq | hgt
  · rw [List.getElem?_append_left hlt] at hd
    exact h i d hd
  · subst heq
    rw [List.getElem?_append_right (Nat.le_refl _), Nat.sub_self] at hd
    cases hd
    exact hc
  · rw [List.getElem?_eq_none (by rw [List.length_append, List.length_singleton]; omega)] at hd
    cases hd

end DeferredViews.Deferred
