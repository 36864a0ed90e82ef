import DeferredViews.Deferred.Placeholder

/-!
# Reading a page

A page can be read as texts and placeholders in turn. A text without delimiters in front of a
placeholder never hides it, so a page whose texts are free of delimiters is read back as it was
written, and to substitute values is to fill this reading.
-/
namespace DeferredViews.Deferred

open Text

/-- An id that a registry may have: hexadecimal digits, at least one. -/
structure IsRegistryId (id : String) : Prop where
  nonempty : id.toList ≠ []
  digits : ∀ c ∈ id.toList, isIdChar c = true

theorem IsRegistryId.of_all {id : String} (hne : id.toList ≠ [])
    (h : id.toList.all isIdChar = true) : IsRegistryId id :=
  ⟨hne, fun c hc => List.all_eq_true.mp h c hc⟩

/-- The inside of a placeholder, with the closing delimiter. -/
def insideOf (id : String) (n : Nat) : List Char :=
  id.toList ++ ':' :: toDecimal n ++ [delimiter]

theorem toList_placeholder (id : String) (n : Nat) :
    (placeholder id n).toList = delimiter :: insideOf id n := by
  simp [placeholder, insideOf]

theorem isDigit_of_mem_toDecimal {n : Nat} {c : Char} (h : c ∈ toDecimal n) :
    isDigit c = true := by
  have hc : c.isDigit = true := Nat.isDigit_of_mem_toDigits (by decide) (by decide) h
  simp only [Char.isDigit, Bool.and_eq_true, decide_eq_true_eq, UInt32.le_iff_toNat_le] at hc
  have hlow : 0x30 ≤ c.toNat := hc.1
  have hhigh : c.toNat ≤ 0x39 := hc.2
  have hzero : (0x30 ≤ c.toNat && c.toNat < 0x30 + 10) = true := by
    simp only [Bool.and_eq_true, decide_eq_true_eq]
    omega
  rw [isDigit, digitValue?, Option.isSome_map, List.find?_isSome]
  exact ⟨0x30, List.mem_cons_self, hzero⟩

theorem IsRegistryId.ne_delimiter {id : String} (hid : IsRegistryId id) : ∀ c ∈ id.toList, c ≠ delimiter := by
  rintro _ hc rfl
  exact absurd (hid.digits _ hc) (by decide)

/-- Between its delimiters a placeholder holds none. -/
theorem IsRegistryId.inside_ne_delimiter {id : String} (hid : IsRegistryId id) (n : Nat) :
    ∀ c ∈ id.toList ++ ':' :: toDecimal n, c ≠ delimiter := by
  intro c hc
  rcases List.mem_append.mp hc with hc | hc
  · exact hid.ne_delimiter c hc
  · rcases List.mem_cons.mp hc with rfl | hc
    · decide
    · rintro rfl
      exact absurd (isDigit_of_mem_toDecimal hc) (by decide)

theorem toDecimal_ne_nil (n : Nat) : toDecimal n ≠ [] := Nat.toDigits_ne_nil

theorem tainted_append (s t : List Char) : tainted (s ++ t) = (tainted s || tainted t) := by
  simp [tainted]

theorem tainted_cons (c : Char) (s : List Char) :
    tainted (c :: s) = (decide (c = delimiter) || tainted s) := by
  simp [tainted, eq_comm]

theorem tainted_placeholder (id : String) (n : Nat) :
    tainted (placeholder id n).toList = true := by
  rw [toList_placeholder, tainted_cons]
  simp

/-- What follows the closing delimiter does not change how an inside is read. -/
theorem readInside_append_of {id number : List Char} (hid : id ≠ [])
    (hids : ∀ c ∈ id, isIdChar c = true) (hnumber : number ≠ [])
    (hdigits : ∀ c ∈ number, isDigit c = true) (rest : List Char) :
    readInside (id ++ ':' :: number ++ [delimiter] ++ rest) =
      some (id ++ ':' :: number ++ [delimiter], rest) := by
  obtain ⟨c, cs, rfl⟩ := List.exists_cons_of_ne_nil hid
  obtain ⟨d, ds, rfl⟩ := List.exists_cons_of_ne_nil hnumber
  have hcolon : isIdChar ':' = false := by decide
  have hend : isDigit delimiter = false := by decide
  have hs : (c :: cs) ++ ':' :: (d :: ds) ++ [delimiter] ++ rest =
      (c :: cs) ++ ':' :: ((d :: ds) ++ delimiter :: rest) := by
    simp
  have htake : ((c :: cs) ++ ':' :: ((d :: ds) ++ delimiter :: rest)).takeWhile isIdChar =
      c :: cs := by
    rw [List.takeWhile_append_of_pos hids, List.takeWhile_cons_of_neg (by simp [hcolon]),
      List.append_nil]
  have hdrop : ((c :: cs) ++ ':' :: ((d :: ds) ++ delimiter :: rest)).dropWhile isIdChar =
      ':' :: ((d :: ds) ++ delimiter :: rest) := by
    rw [List.dropWhile_append_of_pos hids, List.dropWhile_cons_of_neg (by simp [hcolon])]
  have htake' : ((d :: ds) ++ delimiter :: rest).takeWhile isDigit = d :: ds := by
    rw [List.takeWhile_append_of_pos hdigits, List.takeWhile_cons_of_neg (by simp [hend]),
      List.append_nil]
  have hdrop' : ((d :: ds) ++ delimiter :: rest).dropWhile isDigit = delimiter :: rest := by
    rw [List.dropWhile_append_of_pos hdigits, List.dropWhile_cons_of_neg (by simp [hend])]
  rw [hs, readInside, htake, hdrop]
  simp only [htake', hdrop', if_true]

/-- What follows a placeholder does not change how it is read. -/
theorem readInside_insideOf {id : String} (h : IsRegistryId id) (n : Nat) (rest : List Char) :
    readInside (insideOf id n ++ rest) = some (insideOf id n, rest) :=
  readInside_append_of h.nonempty h.digits (toDecimal_ne_nil n)
    (fun _ hc => isDigit_of_mem_toDecimal hc) rest

theorem pieces_placeholder {id : String} (h : IsRegistryId id) (n : Nat) (rest : List Char) :
    pieces ((placeholder id n).toList ++ rest) = .placeholder (insideOf id n) :: pieces rest := by
  rw [toList_placeholder, List.cons_append, pieces, if_pos rfl]
  have hread := readInside_insideOf h n rest
  split
  · next inside after heq =>
    rw [hread] at heq
    obtain ⟨rfl, rfl⟩ := Prod.mk.inj (Option.some.inj heq)
    rfl
  · next heq =>
    rw [hread] at heq
    cases heq

/-- A text without delimiters is taken apart into its characters. -/
theorem pieces_append {t : List Char} (h : tainted t = false) (rest : List Char) :
    pieces (t ++ rest) = t.map .plain ++ pieces rest := by
  induction t with
  | nil => rfl
  | cons c t ih =>
    rw [tainted_cons, Bool.or_eq_false_iff] at h
    have hc : c ≠ delimiter := by simpa using h.1
    rw [List.cons_append, pieces, if_neg hc, ih h.2]
    rfl

/-- A page as texts and placeholders in turn: each placeholder with the text before it, and the
text after the last one. -/
structure Reading where
  steps : List (List Char × String)
  rest : List Char
  deriving DecidableEq, Repr

namespace Reading

/-- The page that is read. -/
def page (d : Reading) : String :=
  String.ofList (d.steps.flatMap (fun p => p.1 ++ p.2.toList) ++ d.rest)

/-- The page with values in the places of its placeholders; one without a value stays. -/
def filled (values : List (String × String)) (d : Reading) : String :=
  String.ofList
    (d.steps.flatMap (fun p => p.1 ++ ((values.lookup p.2).getD p.2).toList) ++ d.rest)

/-- The texts are free of delimiters and every placeholder has a value. -/
structure Complete (values : List (String × String)) (d : Reading) : Prop where
  plain : ∀ p ∈ d.steps, tainted p.1 = false
  known : ∀ p ∈ d.steps, p.2 ∈ values.map (·.1)
  rest : tainted d.rest = false

/-- Put a character in front. -/
def push (c : Char) : Reading → Reading
  | ⟨[], rest⟩ => ⟨[], c :: rest⟩
  | ⟨(t, k) :: more, rest⟩ => ⟨(c :: t, k) :: more, rest⟩

def ofPieces : List Piece → Reading
  | [] => ⟨[], []⟩
  | .plain c :: more => (ofPieces more).push c
  | .placeholder inside :: more =>
    ⟨([], String.ofList (delimiter :: inside)) :: (ofPieces more).steps, (ofPieces more).rest⟩

/-- The reading of a page from the left. -/
def of (page : String) : Reading := ofPieces (pieces page.toList)

theorem toList_page_push (c : Char) (d : Reading) :
    (d.push c).page.toList = c :: d.page.toList := by
  obtain ⟨_ | ⟨⟨t, k⟩, more⟩, rest⟩ := d <;> simp [push, page]

theorem toList_filled_push (values : List (String × String)) (c : Char) (d : Reading) :
    ((d.push c).filled values).toList = c :: (d.filled values).toList := by
  obtain ⟨_ | ⟨⟨t, k⟩, more⟩, rest⟩ := d <;> simp [push, filled]

theorem toList_page_ofPieces (ps : List Piece) :
    (ofPieces ps).page.toList = ps.flatMap Piece.chars := by
  induction ps with
  | nil => rfl
  | cons p ps ih =>
    cases p with
    | plain c =>
      rw [ofPieces, toList_page_push, ih]
      rfl
    | placeholder inside =>
      rw [List.flatMap_cons, ← ih]
      simp [ofPieces, page, Piece.chars]

theorem toList_filled_ofPieces (values : List (String × String)) (ps : List Piece) :
    ((ofPieces ps).filled values).toList = ps.flatMap (Piece.resolve values) := by
  induction ps with
  | nil => rfl
  | cons p ps ih =>
    cases p with
    | plain c =>
      rw [ofPieces, toList_filled_push, ih]
      rfl
    | placeholder inside =>
      rw [List.flatMap_cons, ← ih]
      cases h : values.lookup (String.ofList (delimiter :: inside)) with
      | none =>
        simp only [ofPieces, filled, Piece.resolve, List.flatMap_cons, h, Option.getD_none,
          String.toList_ofList, List.nil_append, List.append_assoc]
      | some v =>
        simp only [ofPieces, filled, Piece.resolve, List.flatMap_cons, h, Option.getD_some,
          String.toList_ofList, List.nil_append, List.append_assoc]

/-- Nothing is lost in reading a page. -/
theorem page_of (page : String) : (of page).page = page := by
  have h := toList_page_ofPieces (pieces page.toList)
  rw [pieces_flatMap_chars] at h
  exact String.toList_inj.mp h

/-- To substitute is to fill the reading from the left. -/
theorem substitute_eq_filled (values : List (String × String)) (page : String) :
    substitute values page = (of page).filled values := by
  rw [substitute, ← toList_filled_ofPieces, String.ofList_toList]
  rfl

theorem ofPieces_map_plain (t : List Char) (ps : List Piece) :
    ofPieces (t.map .plain ++ ps) = t.foldr push (ofPieces ps) := by
  induction t with
  | nil => rfl
  | cons c t ih =>
    rw [List.map_cons, List.cons_append, ofPieces, ih]
    rfl

theorem foldr_push_nil (t rest : List Char) : t.foldr push ⟨[], rest⟩ = ⟨[], t ++ rest⟩ := by
  induction t with
  | nil => rfl
  | cons c t ih =>
    rw [List.foldr_cons, ih]
    rfl

theorem foldr_push_cons (t u : List Char) (k : String) (more : List (List Char × String))
    (rest : List Char) :
    t.foldr push ⟨(u, k) :: more, rest⟩ = ⟨(t ++ u, k) :: more, rest⟩ := by
  induction t with
  | nil => rfl
  | cons c t ih =>
    rw [List.foldr_cons, ih]
    rfl

/-- A page whose texts are free of delimiters and whose placeholders are those of one id is read
as it was written. -/
theorem of_page {id : String} (hid : IsRegistryId id) {d : Reading}
    (hplain : ∀ p ∈ d.steps, tainted p.1 = false) (hrest : tainted d.rest = false)
    (htokens : ∀ p ∈ d.steps, ∃ n, p.2 = placeholder id n) : of d.page = d := by
  obtain ⟨steps, rest⟩ := d
  rw [of, page, String.toList_ofList]
  induction steps with
  | nil =>
    have hpieces := pieces_append hrest []
    rw [List.append_nil, pieces, List.append_nil] at hpieces
    rw [List.flatMap_nil, List.nil_append, hpieces]
    have hread := ofPieces_map_plain rest []
    rw [List.append_nil] at hread
    rw [hread, ofPieces, foldr_push_nil, List.append_nil]
  | cons p steps ih =>
    obtain ⟨t, k⟩ := p
    have ht : tainted t = false := hplain (t, k) List.mem_cons_self
    obtain ⟨n, hk⟩ := htokens (t, k) List.mem_cons_self
    have hk : k = placeholder id n := hk
    have ih := ih (fun p hp => hplain p (List.mem_cons_of_mem _ hp)) hrest
      (fun p hp => htokens p (List.mem_cons_of_mem _ hp))
    rw [List.flatMap_cons, hk, List.append_assoc, List.append_assoc, pieces_append ht,
      pieces_placeholder hid, ofPieces_map_plain, ofPieces, ih, foldr_push_cons, List.append_nil,
      ← toList_placeholder, String.ofList_toList]

/-- Every placeholder that is read begins with the delimiter. -/
theorem tainted_of_mem_ofPieces {ps : List Piece} {p : List Char × String}
    (h : p ∈ (ofPieces ps).steps) : tainted p.2.toList = true := by
  induction ps generalizing p with
  | nil => cases h
  | cons q ps ih =>
    cases q with
    | plain c =>
      rw [ofPieces] at h
      generalize ofPieces ps = d at h ih
      obtain ⟨_ | ⟨⟨t, k⟩, more⟩, rest⟩ := d
      · cases h
      · rcases List.mem_cons.mp h with rfl | h
        · exact ih (p := (t, k)) List.mem_cons_self
        · exact ih (List.mem_cons_of_mem _ h)
    | placeholder inside =>
      rcases List.mem_cons.mp h with rfl | h
      · rw [String.toList_ofList, tainted_cons]
        simp
      · exact ih h

theorem tainted_flatMap {α : Type} (f : α → List Char) (l : List α) :
    tainted (l.flatMap f) = l.any fun a => tainted (f a) := by
  induction l with
  | nil => rfl
  | cons a l ih => rw [List.flatMap_cons, tainted_append, ih, List.any_cons]

theorem lookup_isSome_iff {values : List (String × String)} {k : String} :
    (∃ v, values.lookup k = some v) ↔ k ∈ values.map (·.1) := by
  rw [← Option.isSome_iff_exists, List.lookup_isSome_iff, List.mem_map]
  constructor
  · rintro ⟨p, hp, he⟩
    exact ⟨p, hp, (beq_iff_eq.mp he).symm⟩
  · rintro ⟨p, hp, rfl⟩
    exact ⟨p, hp, beq_self_eq_true _⟩

theorem mem_of_lookup {values : List (String × String)} {k v : String}
    (h : values.lookup k = some v) : (k, v) ∈ values := by
  obtain ⟨l₁, l₂, rfl, -⟩ := List.lookup_eq_some_iff.mp h
  simp

/-- Filling leaves no delimiter exactly when nothing but placeholders with values had one. -/
theorem tainted_filled_of {values : List (String × String)} (page : String)
    (hvalues : ∀ p ∈ values, tainted p.2.toList = false) :
    tainted ((of page).filled values).toList = false ↔ (of page).Complete values := by
  have htokens : ∀ p ∈ (of page).steps, tainted p.2.toList = true :=
    fun p hp => tainted_of_mem_ofPieces hp
  rw [filled, String.toList_ofList, tainted_append, tainted_flatMap, Bool.or_eq_false_iff,
    List.any_eq_false]
  constructor
  · rintro ⟨hsteps, hrest⟩
    refine ⟨?_, ?_, hrest⟩
    · intro p hp
      have hstep := hsteps p hp
      rw [tainted_append, Bool.not_eq_true, Bool.or_eq_false_iff] at hstep
      exact hstep.1
    · intro p hp
      have hstep := hsteps p hp
      rw [tainted_append, Bool.not_eq_true, Bool.or_eq_false_iff] at hstep
      cases hlookup : values.lookup p.2 with
      | none =>
        have htainted := hstep.2
        rw [hlookup, Option.getD_none, htokens p hp] at htainted
        cases htainted
      | some v => exact lookup_isSome_iff.mp ⟨v, hlookup⟩
  · rintro ⟨hplain, hknown, hrest⟩
    refine ⟨?_, hrest⟩
    intro p hp
    obtain ⟨v, hv⟩ := lookup_isSome_iff.mpr (hknown p hp)
    have huntainted : tainted v.toList = false := hvalues (p.2, v) (mem_of_lookup hv)
    rw [tainted_append, hplain p hp, hv, Option.getD_some, huntainted]
    simp

end Reading
end DeferredViews.Deferred
