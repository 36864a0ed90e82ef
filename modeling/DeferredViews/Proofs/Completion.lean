import DeferredViews.Proofs.Reading
import DeferredViews.View.Render

/-!
# When a page can be completed

Values are put into a page in one pass, and a delimiter that is left over afterwards fails the
render. This happens for every page but those that are texts without delimiters with placeholders
of the values between them.
-/
namespace DeferredViews.View

open Deferred

/-- What completing a page without values comes to. -/
theorem complete_nil (r : Request) (registry : Nat) (rendered : String) (s : Site) :
    (complete r registry rendered [] s).1 = .ok rendered := by
  have hpage := substitute_nil rendered
  simp only [complete, List.isEmpty_nil, Bool.not_true, Bool.false_and, hpage]
  rfl

/-- The failure of a page with a delimiter left over. -/
def alteration (s : Site) (registry : Nat) (rendered : String) (values : List (String × String)) :
    Failure :=
  .helper
    ((firstAltered rendered (values.map (·.1))).elim "<unknown>"
      (s.activity.registry registry).helperName)
    "placeholder was altered during rendering (was a filter applied to it?)" none

/-- What completing a page with values comes to. -/
theorem complete_eq (r : Request) (registry : Nat) (rendered : String)
    {values : List (String × String)} (hne : values ≠ []) (s : Site) :
    (complete r registry rendered values s).1 =
      if tainted (substitute values rendered).toList
      then .error (.failure (alteration s registry rendered values))
      else .ok (substitute values rendered) := by
  have hvalues : values.isEmpty = false := by simpa using hne
  cases h : tainted (substitute values rendered).toList with
  | true =>
    simp only [complete, hvalues, h]
    rfl
  | false =>
    simp only [complete, hvalues, h]
    rfl

/-- With values, completing succeeds exactly for the pages that are texts without delimiters with
placeholders of the values between them; there is only one way to see a page so, and the result is
the page with the values in their places. Any other page fails the render. Without values the page
stays as it is. -/
theorem complete_ok_iff_reading (r : Request) (registry : Nat) (rendered : String) (s : Site) :
    (complete r registry rendered [] s).1 = .ok rendered ∧
    ∀ (id : String) (values : List (String × String)), IsRegistryId id → values ≠ [] →
      (∀ p ∈ values, ∃ n, p.1 = placeholder id n) →
      (∀ p ∈ values, tainted p.2.toList = false) →
      (∀ html, (complete r registry rendered values s).1 = .ok html ↔
        ∃ d : Reading, d.Complete values ∧ d.page = rendered ∧ d.filled values = html) ∧
      (∀ d e : Reading, d.Complete values → d.page = rendered →
        e.Complete values → e.page = rendered → d = e) ∧
      ((¬ ∃ d : Reading, d.Complete values ∧ d.page = rendered) →
        (complete r registry rendered values s).1 =
          .error (.failure (alteration s registry rendered values))) := by
  refine ⟨complete_nil r registry rendered s, ?_⟩
  intro id values hid hne hkeys hvalues
  -- Every complete reading of the page is the one from the left.
  have hread : ∀ d : Reading, d.Complete values → d.page = rendered → Reading.of rendered = d := by
    intro d hd hpage
    rw [← hpage]
    refine Reading.of_page hid hd.plain hd.rest ?_
    intro p hp
    obtain ⟨q, hq, heq⟩ := List.mem_map.mp (hd.known p hp)
    rw [← heq]
    exact hkeys q hq
  have htainted := Reading.tainted_filled_of rendered hvalues
  have hcomplete := complete_eq r registry rendered hne s
  rw [Reading.substitute_eq_filled] at hcomplete
  refine ⟨?_, ?_, ?_⟩
  · intro html
    constructor
    · intro hok
      rw [hcomplete] at hok
      split at hok
      · cases hok
      · next hfree =>
        rw [Bool.not_eq_true] at hfree
        exact ⟨Reading.of rendered, htainted.mp hfree, Reading.page_of rendered,
          Except.ok.inj hok⟩
    · rintro ⟨d, hd, hpage, rfl⟩
      have hleft := hread d hd hpage
      rw [← hleft] at hd
      have hfree := htainted.mpr hd
      rw [hcomplete, hfree, hleft]
      rfl
  · intro d e hd hdpage he hepage
    exact (hread d hd hdpage).symm.trans (hread e he hepage)
  · intro hnone
    rw [hcomplete, if_pos]
    cases hfree : tainted ((Reading.of rendered).filled values).toList with
    | true => rfl
    | false =>
      exact absurd ⟨Reading.of rendered, htainted.mp hfree, Reading.page_of rendered⟩ hnone

/-- Two placeholders side by side, one of them twice: each is replaced by its value. -/
theorem complete_side_by_side :
    (complete ⟨0, "/v/page.html", 0⟩ 0
      ("p" ++ placeholder "a1" 0 ++ placeholder "a1" 12 ++ placeholder "a1" 0 ++ "q")
      [(placeholder "a1" 0, "x"), (placeholder "a1" 12, "<y>")]
      { files := ⟨[], []⟩, activity := { ids := fun _ => "a1" } }).1 = .ok "px<y>xq" := by
  have hid : IsRegistryId "a1" := .of_all (by decide) (by decide)
  have hkeys : ∀ p ∈ [(placeholder "a1" 0, "x"), (placeholder "a1" 12, "<y>")],
      ∃ n, p.1 = placeholder "a1" n := by
    intro p hp
    rcases List.mem_cons.mp hp with rfl | hp
    · exact ⟨0, rfl⟩
    · rw [List.mem_singleton.mp hp]
      exact ⟨12, rfl⟩
  have hcriterion := ((complete_ok_iff_reading ⟨0, "/v/page.html", 0⟩ 0
    ("p" ++ placeholder "a1" 0 ++ placeholder "a1" 12 ++ placeholder "a1" 0 ++ "q")
    { files := ⟨[], []⟩, activity := { ids := fun _ => "a1" } }).2
    "a1" [(placeholder "a1" 0, "x"), (placeholder "a1" 12, "<y>")] hid (by simp) hkeys
    (by decide)).1 "px<y>xq"
  refine hcriterion.mpr ⟨⟨[(['p'], placeholder "a1" 0), ([], placeholder "a1" 12),
    ([], placeholder "a1" 0)], ['q']⟩, ⟨by decide, by decide, by decide⟩, by decide, by decide⟩

end DeferredViews.View
