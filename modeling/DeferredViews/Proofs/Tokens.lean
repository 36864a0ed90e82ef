import DeferredViews.Proofs.Rows
import DeferredViews.Text.Search

/-!
# Whose placeholders a page holds

The page of a row holds the placeholders of its own id for its places and no others, unless the
characters of the row spell out an id. This holds although a delimiter among these characters may
end up next to those of a placeholder.
-/
namespace DeferredViews.Text

theorem occurs_iff {p s : List Char} : occurs p s = true ↔ p <:+: s := by
  rw [occurs]
  constructor
  · intro h
    obtain ⟨⟨a, b⟩, hcut⟩ := Option.isSome_iff_exists.mp h
    exact ⟨a, b, (cutAt_append hcut).symm⟩
  · rintro ⟨a, b, rfl⟩
    induction a with
    | nil =>
      cases p with
      | nil => cases b <;> simp [cutAt, dropPattern?]
      | cons c p =>
        have hdrop : dropPattern? (c :: p) (c :: p ++ b) = some b := dropPattern?_eq_some.mpr rfl
        simp only [List.nil_append, List.cons_append] at hdrop ⊢
        simp [cutAt, hdrop]
    | cons c a ih =>
      simp only [List.cons_append, cutAt]
      split
      · simp
      · simpa using ih

end DeferredViews.Text

namespace DeferredViews.Deferred.Row

open Text

/-- The characters of the row nowhere spell out the id. -/
def Unguessed (id : String) (row : Row) : Prop := ¬ id.toList.map Mark.plain <:+: row

variable {id id' : String} {row : Row} {mark : Mark}

theorem unguessed_of_cons (h : Unguessed id (mark :: row)) : Unguessed id row :=
  fun hin => h (hin.trans (List.suffix_cons mark row).isInfix)

/-- Where the page goes on without a delimiter, the row has its characters in plain. -/
theorem plain_of_page {s rest : List Char} (hs : ∀ c ∈ s, c ≠ delimiter)
    (h : row.flatMap (Mark.onPage id) = s ++ rest) : s.map Mark.plain <+: row := by
  induction s generalizing row with
  | nil => simp
  | cons c s ih =>
    have hc : c ≠ delimiter := hs c (by simp)
    cases row with
    | nil => simp at h
    | cons mark row =>
      cases mark with
      | plain d =>
        simp only [List.flatMap_cons, Mark.onPage, List.cons_append, List.nil_append,
          List.cons.injEq] at h
        have hrow := ih (fun x hx => hs x (by simp [hx])) h.2
        simpa [h.1] using hrow
      | slot n =>
        simp only [List.flatMap_cons, Mark.onPage, toList_placeholder, List.cons_append,
          List.cons.injEq] at h
        exact absurd h.1.symm hc

/-- The page nowhere goes on as the inside of a placeholder of that id. -/
theorem flatMap_ne_insideOf (hid' : IsRegistryId id') (h : Unguessed id' row) (n : Nat)
    (rest : List Char) : row.flatMap (Mark.onPage id) ≠ insideOf id' n ++ rest := by
  intro heq
  have hpage : row.flatMap (Mark.onPage id) =
      id'.toList ++ (':' :: toDecimal n ++ [delimiter] ++ rest) := by
    simp [heq, insideOf]
  exact h (plain_of_page hid'.ne_delimiter hpage).isInfix

/-- A delimiter after some characters of an inside is the one that closes it. -/
theorem split_insideOf (hid : IsRegistryId id) {n : Nat} {before after rest : List Char}
    (h : insideOf id n ++ rest = before ++ delimiter :: after) :
    rest = after ∨ ∃ more, rest = more ++ delimiter :: after := by
  have hfree := hid.inside_ne_delimiter n
  rw [insideOf, List.append_assoc, List.append_eq_append_iff] at h
  rcases h with ⟨more, hbefore, hrest⟩ | ⟨more, hinside, hrest⟩
  · cases more with
    | nil => exact .inl (by simpa using hrest)
    | cons c more =>
      simp only [List.cons_append, List.nil_append, List.cons.injEq] at hrest
      exact .inr ⟨more, hrest.2⟩
  · cases more with
    | nil => exact .inl (by simpa using hrest.symm)
    | cons c more =>
      simp only [List.cons_append, List.cons.injEq] at hrest
      have hmem : delimiter ∈ id.toList ++ ':' :: toDecimal n := by simp [hinside, hrest.1]
      exact absurd rfl (hfree _ hmem)

theorem infix_flatMap (hid : IsRegistryId id) (hid' : IsRegistryId id') (h : Unguessed id' row)
    {n : Nat} {before after : List Char}
    (hpage : row.flatMap (Mark.onPage id) = before ++ delimiter :: (insideOf id' n ++ after)) :
    id' = id ∧ Mark.slot n ∈ row := by
  induction row generalizing before with
  | nil => simp at hpage
  | cons mark row ih =>
    have hmore := unguessed_of_cons h
    cases mark with
    | plain c =>
      simp only [List.flatMap_cons, Mark.onPage, List.cons_append, List.nil_append] at hpage
      cases before with
      | nil =>
        simp only [List.nil_append, List.cons.injEq] at hpage
        exact absurd hpage.2 (flatMap_ne_insideOf hid' hmore n after)
      | cons d before =>
        simp only [List.cons_append, List.cons.injEq] at hpage
        have hrow := ih hmore hpage.2
        exact ⟨hrow.1, by simp [hrow.2]⟩
    | slot m =>
      simp only [List.flatMap_cons, Mark.onPage, toList_placeholder, List.cons_append] at hpage
      cases before with
      | nil =>
        simp only [List.nil_append, List.cons.injEq, true_and] at hpage
        have hread := readInside_insideOf hid m (row.flatMap (Mark.onPage id))
        rw [hpage, readInside_insideOf hid' n after] at hread
        have hinside : insideOf id' n = insideOf id m := (Prod.mk.inj (Option.some.inj hread)).1
        have hsame : placeholder id' n = placeholder id m := by
          apply String.toList_inj.mp
          rw [toList_placeholder, toList_placeholder, hinside]
        obtain ⟨rfl, rfl⟩ := placeholder_injective hid' hid hsame
        simp
      | cons d before =>
        simp only [List.cons_append, List.cons.injEq] at hpage
        -- The placeholder sought may begin with the delimiter that closes this one.
        rcases split_insideOf hid hpage.2 with hrest | ⟨more, hrest⟩
        · exact absurd hrest (flatMap_ne_insideOf hid' hmore n after)
        · have hrow := ih hmore hrest
          exact ⟨hrow.1, by simp [hrow.2]⟩

/-- A page holds the placeholders of its own places only. -/
theorem infix_text (hid : IsRegistryId id) (hid' : IsRegistryId id') (h : Unguessed id' row)
    {n : Nat} (hin : (placeholder id' n).toList <:+: (text id row).toList) :
    id' = id ∧ Mark.slot n ∈ row := by
  obtain ⟨before, after, heq⟩ := hin
  have hpage : row.flatMap (Mark.onPage id) =
      before ++ delimiter :: (insideOf id' n ++ after) := by
    simpa [text, toList_placeholder] using heq.symm
  exact infix_flatMap hid hid' h hpage

theorem occurs_text (hid : IsRegistryId id) (h : Unguessed id row) (n : Nat) :
    Text.occurs (placeholder id n).toList (text id row).toList = decide (Mark.slot n ∈ row) := by
  rw [Bool.eq_iff_iff, decide_eq_true_iff, Text.occurs_iff]
  constructor
  · exact fun hin => (infix_text hid hid h hin).2
  · intro hmem
    obtain ⟨before, after, rfl⟩ := List.append_of_mem hmem
    exact ⟨before.flatMap (Mark.onPage id), after.flatMap (Mark.onPage id), by
      simp [text, Mark.onPage]⟩

/-- A delimiter among the characters of a row is left over when values are put into its page. -/
theorem tainted_substitute (hid : IsRegistryId id) (h : Unguessed id row)
    {values : List (String × String)} (hkeys : ∀ p ∈ values, ∃ n, p.1 = placeholder id n)
    (hdelimiter : Mark.plain delimiter ∈ row) :
    tainted (substitute values (text id row)).toList = true := by
  rw [substitute, text, String.toList_ofList, String.toList_ofList]
  induction row with
  | nil => simp at hdelimiter
  | cons mark row ih =>
    have hmore := unguessed_of_cons h
    cases mark with
    | slot n =>
      have hrow : Mark.plain delimiter ∈ row := by simpa using hdelimiter
      simp [Mark.onPage, pieces_placeholder hid, tainted_append, ih hmore hrow]
    | plain c =>
      by_cases hc : c = delimiter
      · subst hc
        simp only [List.flatMap_cons, Mark.onPage, List.cons_append, List.nil_append]
        rw [pieces, if_pos rfl]
        split
        · next inside after hread =>
          -- No value is known for what is read here, so its delimiters stay.
          have hunknown : values.lookup (String.ofList (delimiter :: inside)) = none := by
            rw [← Option.not_isSome_iff_eq_none, Option.isSome_iff_exists, Reading.lookup_isSome_iff]
            intro hmem
            obtain ⟨p, hp, hkey⟩ := List.mem_map.mp hmem
            obtain ⟨n, hn⟩ := hkeys p hp
            have hinside : inside = insideOf id n := by
              have hlist := congrArg String.toList (hkey.symm.trans hn)
              simpa [toList_placeholder] using hlist
            have hsplit := readInside_append hread
            rw [hinside] at hsplit
            exact flatMap_ne_insideOf hid hmore n after hsplit
          rw [List.flatMap_cons, Piece.resolve, hunknown]
          simp [tainted_cons]
        · simp [Piece.resolve, tainted_cons]
      · have hrow : Mark.plain delimiter ∈ row := by
          simpa [Ne.symm hc] using hdelimiter
        simp only [List.flatMap_cons, Mark.onPage, List.cons_append, List.nil_append]
        rw [pieces, if_neg hc]
        simp [tainted_append, ih hmore hrow]

end DeferredViews.Deferred.Row
