import DeferredViews.Proofs.Tokens

/-!
# Placeholders at seams

A page may hold a placeholder that no call was printed as: characters that came from elsewhere may
spell one out, also across the seam of two texts. Where none is, a delimiter among the characters of
a row is left over when values are put in the places of its page.
-/
namespace DeferredViews.Deferred

open Text

namespace Row

variable {id : String} {row : Row} {count : Nat}

/-- The placeholders with numbers below a bound stand in the page where the row has places for them,
and nowhere else. -/
def Seamless (id : String) (count : Nat) (row : Row) : Prop :=
  ∀ n < count, ∀ before after : List Char,
    row.flatMap (Mark.onPage id) = before ++ ((placeholder id n).toList ++ after) →
      ∃ row₁ row₂, row = row₁ ++ Mark.slot n :: row₂ ∧ row₁.flatMap (Mark.onPage id) = before

/-- A seamless page shows just the placeholders of its places. -/
theorem Seamless.occurs (h : row.Seamless id count) {n : Nat} (hn : n < count) :
    Text.occurs (placeholder id n).toList (row.text id).toList = decide (Mark.slot n ∈ row) := by
  rw [Bool.eq_iff_iff, decide_eq_true_iff, Text.occurs_iff, text, String.toList_ofList]
  constructor
  · rintro ⟨before, after, hpage⟩
    rw [List.append_assoc] at hpage
    obtain ⟨row₁, row₂, rfl, -⟩ := h n hn before after hpage.symm
    exact List.mem_append_right _ List.mem_cons_self
  · intro hmem
    obtain ⟨row₁, row₂, rfl⟩ := List.append_of_mem hmem
    refine ⟨row₁.flatMap (Mark.onPage id), row₂.flatMap (Mark.onPage id), ?_⟩
    rw [List.flatMap_append, List.flatMap_cons, Mark.onPage, List.append_assoc]

/-- Each character of joined texts stands in one of them. -/
theorem text_around {texts : List (List Char)} {a b : List Char} {c : Char}
    (h : texts.flatten = a ++ c :: b) :
    ∃ texts₁ t texts₂, texts = texts₁ ++ t :: texts₂ ∧ c ∈ t ∧ texts₁.flatten.length ≤ a.length ∧
      a.length < texts₁.flatten.length + t.length := by
  induction texts generalizing a with
  | nil => simp at h
  | cons t texts ih =>
    have hfurther : ∀ x, a = t ++ x → texts.flatten = x ++ c :: b →
        ∃ texts₁ t' texts₂, t :: texts = texts₁ ++ t' :: texts₂ ∧ c ∈ t' ∧
          texts₁.flatten.length ≤ a.length ∧ a.length < texts₁.flatten.length + t'.length := by
      rintro x rfl hx
      obtain ⟨texts₁, t', texts₂, rfl, hmem, hle, hlt⟩ := ih hx
      refine ⟨t :: texts₁, t', texts₂, rfl, hmem, ?_, ?_⟩
      all_goals
        rw [List.flatten_cons, List.length_append, List.length_append]
        omega
    rw [List.flatten_cons] at h
    obtain ⟨x, hx, hrest⟩ | ⟨x, hx, hrest⟩ := List.append_eq_append_iff.mp h
    · exact hfurther x hx hrest
    · cases x with
      | nil => exact hfurther [] (by rw [hx, List.append_nil, List.append_nil]) hrest.symm
      | cons d x =>
        obtain ⟨rfl, -⟩ := List.cons.inj hrest
        refine ⟨[], t, texts, rfl, ?_, Nat.zero_le _, ?_⟩
        · rw [hx]
          exact List.mem_append_right _ List.mem_cons_self
        · rw [hx, List.flatten_nil, List.length_nil, List.length_append, List.length_cons]
          omega

/-- In a page that can be filled, each delimiter belongs to a placeholder with a value. -/
theorem placeholder_around {values : List (String × String)} {d : Reading} (hd : d.Complete values)
    {a b : List Char} (hpage : d.page.toList = a ++ delimiter :: b) :
    ∃ k before after, k ∈ values.map (·.1) ∧ d.page.toList = before ++ (k.toList ++ after) ∧
      before.length ≤ a.length ∧ a.length < before.length + k.toList.length := by
  have htexts : d.page.toList =
      (d.steps.flatMap (fun p => [p.1, p.2.toList]) ++ [d.rest]).flatten := by
    rw [Reading.page, String.toList_ofList, List.flatten_append, List.flatten_singleton,
      List.flatMap_def, List.flatMap_def]
    congr 1
    induction d.steps with
    | nil => rfl
    | cons p steps ih => simp [ih]
  rw [htexts] at hpage ⊢
  obtain ⟨texts₁, t, texts₂, hsplit, hmem, hle, hlt⟩ := text_around hpage
  have ht : t ∈ d.steps.flatMap (fun p => [p.1, p.2.toList]) ++ [d.rest] := by
    rw [hsplit]
    exact List.mem_append_right _ List.mem_cons_self
  have htainted : tainted t = true := List.contains_iff_mem.mpr hmem
  -- Only placeholders hold delimiters.
  obtain ⟨p, hp, rfl⟩ : ∃ p ∈ d.steps, t = p.2.toList := by
    rcases List.mem_append.mp ht with ht | ht
    · obtain ⟨p, hp, ht⟩ := List.mem_flatMap.mp ht
      rcases List.mem_cons.mp ht with rfl | ht
      · rw [hd.plain p hp] at htainted
        cases htainted
      · exact ⟨p, hp, List.mem_singleton.mp ht⟩
    · rw [List.mem_singleton.mp ht, hd.rest] at htainted
      cases htainted
  refine ⟨p.2, texts₁.flatten, texts₂.flatten, hd.known p hp, ?_, hle, hlt⟩
  rw [hsplit, List.flatten_append, List.flatten_cons]

/-- A delimiter among the characters of a seamless page is left over when values are put into it. -/
theorem Seamless.tainted_substitute (h : row.Seamless id count) {values : List (String × String)}
    (hkeys : ∀ p ∈ values, ∃ n < count, p.1 = placeholder id n)
    (hvalues : ∀ p ∈ values, tainted p.2.toList = false)
    (hdelimiter : Mark.plain delimiter ∈ row) :
    tainted (substitute values (row.text id)).toList = true := by
  rw [← Bool.not_eq_false]
  intro hfree
  rw [Reading.substitute_eq_filled, Reading.tainted_filled_of _ hvalues] at hfree
  obtain ⟨row₁, row₂, hrow⟩ := List.append_of_mem hdelimiter
  have hpage : (Reading.of (row.text id)).page.toList =
      row₁.flatMap (Mark.onPage id) ++ delimiter :: row₂.flatMap (Mark.onPage id) := by
    rw [Reading.page_of, text, String.toList_ofList, hrow, List.flatMap_append, List.flatMap_cons]
    rfl
  obtain ⟨k, before, after, hk, hpage', hle, hlt⟩ := placeholder_around hfree hpage
  obtain ⟨p, hp, rfl⟩ := List.mem_map.mp hk
  obtain ⟨n, hn, hkey⟩ := hkeys p hp
  rw [Reading.page_of, text, String.toList_ofList] at hpage'
  rw [hkey] at hpage' hlt
  -- The placeholder around the delimiter is one of a place, so the delimiter is none of a text.
  obtain ⟨row₃, row₄, hplace, rfl⟩ := h n hn before after hpage'
  rw [hrow] at hplace
  obtain ⟨x, rfl, hx⟩ | ⟨x, rfl, hx⟩ := List.append_eq_append_iff.mp hplace
  · cases x with
    | nil => cases (List.cons.inj hx).1
    | cons mark x =>
      obtain ⟨rfl, -⟩ := List.cons.inj hx
      rw [List.flatMap_append, List.length_append, List.flatMap_cons, List.length_append] at hle
      simp only [Mark.onPage, List.length_singleton] at hle
      omega
  · cases x with
    | nil => cases (List.cons.inj hx).1
    | cons mark x =>
      obtain ⟨rfl, -⟩ := List.cons.inj hx
      rw [List.flatMap_append, List.length_append, List.flatMap_cons, List.length_append] at hlt
      simp only [Mark.onPage] at hlt
      omega

/-- A placeholder in a page that begins with a place: it is the one of the place, its delimiter ends
the one of the place, or it comes later. -/
theorem page_slot_cases (hid : IsRegistryId id) {m n : Nat} {page before after : List Char}
    (h : (placeholder id m).toList ++ page = before ++ delimiter :: (insideOf id n ++ after)) :
    (before = [] ∧ m = n) ∨ page = insideOf id n ++ after ∨
      ∃ more, before = (placeholder id m).toList ++ more ∧
        page = more ++ delimiter :: (insideOf id n ++ after) := by
  rw [toList_placeholder, List.cons_append] at h
  cases before with
  | nil =>
    have hrest : insideOf id m ++ page = insideOf id n ++ after := (List.cons.inj h).2
    have hread := readInside_insideOf hid m page
    rw [hrest, readInside_insideOf hid n after] at hread
    have hinside : insideOf id n = insideOf id m := (Prod.mk.inj (Option.some.inj hread)).1
    have hsame : placeholder id m = placeholder id n := by
      rw [← String.toList_inj, toList_placeholder, toList_placeholder, hinside]
    obtain ⟨-, rfl⟩ := placeholder_injective hid hid hsame
    exact .inl ⟨rfl, rfl⟩
  | cons d before =>
    obtain ⟨rfl, hrest⟩ := List.cons.inj h
    rcases split_insideOf hid hrest with hinside | ⟨more, hmore⟩
    · exact .inr (.inl hinside)
    · rw [hmore, ← List.append_assoc] at hrest
      have hbefore := List.append_cancel_right hrest
      refine .inr (.inr ⟨more, ?_, hmore⟩)
      rw [toList_placeholder, List.cons_append, hbefore]

/-- A row that spells out no placeholder but for its delimiters is seamless. -/
theorem seamless_of_unspelled (hid : IsRegistryId id)
    (h : ∀ n < count, ¬(id.toList ++ ':' :: toDecimal n).map Mark.plain <:+: row) :
    row.Seamless id count := by
  intro n hn before after hpage
  rw [toList_placeholder, List.cons_append] at hpage
  -- No page of a part of the row goes on with the inside of the placeholder.
  have hnone : ∀ {part : Row}, part <:+: row → ∀ rest,
      part.flatMap (Mark.onPage id) ≠ insideOf id n ++ rest := by
    intro part hpart rest heq
    rw [insideOf, List.append_assoc] at heq
    exact h n hn ((plain_of_page (hid.inside_ne_delimiter n) heq).isInfix.trans hpart)
  clear h
  induction row generalizing before with
  | nil => simp at hpage
  | cons mark row ih =>
    have hmore := fun {part : Row} (hpart : part <:+: row) =>
      hnone (hpart.trans (List.suffix_cons mark row).isInfix)
    have hself := hmore (List.infix_refl row)
    -- A placeholder further on is one of the rest of the row.
    have hfurther : ∀ rest, before = mark.onPage id ++ rest →
        row.flatMap (Mark.onPage id) = rest ++ delimiter :: (insideOf id n ++ after) →
        ∃ row₁ row₂, mark :: row = row₁ ++ Mark.slot n :: row₂ ∧
          row₁.flatMap (Mark.onPage id) = before := by
      rintro rest rfl hrest
      obtain ⟨row₁, row₂, rfl, hrow₁⟩ := ih rest hrest hmore
      exact ⟨mark :: row₁, row₂, rfl, by rw [List.flatMap_cons, hrow₁]⟩
    rw [List.flatMap_cons] at hpage
    cases mark with
    | plain c =>
      rw [Mark.onPage, List.singleton_append] at hpage
      cases before with
      | nil => exact absurd (List.cons.inj hpage).2 (hself after)
      | cons d before =>
        obtain ⟨rfl, hrest⟩ := List.cons.inj hpage
        exact hfurther before rfl hrest
    | slot m =>
      rw [Mark.onPage] at hpage
      rcases page_slot_cases hid hpage with ⟨rfl, rfl⟩ | hinside | ⟨more, hbefore, hrest⟩
      · exact ⟨[], row, rfl, rfl⟩
      · exact absurd hinside (hself after)
      · exact hfurther more hbefore hrest

end Row
end DeferredViews.Deferred
