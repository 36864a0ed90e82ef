import DeferredViews.Proofs.Pairing
import DeferredViews.Proofs.Progress

/-!
# The id of a registry is no part of a page

A render of templates of the shape prints placeholders whole: whatever the id of its registry, it
follows one plan, and a run with any one id tells which.
-/
namespace DeferredViews.Deferred

/-- A clean row is told by its page. -/
theorem Row.eq_of_text_eq {id : String} (hid : IsRegistryId id) {row row' : Row} (h : row.Clean)
    (h' : row'.Clean) (htext : row.text id = row'.text id) : row = row' := by
  have hpieces : pieces (row.flatMap (Mark.onPage id)) = pieces (row'.flatMap (Mark.onPage id)) := by
    have hlist := congrArg String.toList htext
    rw [Row.text, Row.text, String.toList_ofList, String.toList_ofList] at hlist
    rw [hlist]
  rw [Row.pieces_onPage hid h, Row.pieces_onPage hid h'] at hpieces
  refine (List.map_inj_right fun m m' hm => ?_).mp hpieces
  cases m with
  | plain c =>
    cases m' with
    | plain c' =>
      cases hm
      rfl
    | slot n => cases hm
  | slot n =>
    cases m' with
    | plain c' => cases hm
    | slot n' =>
      have hinside : insideOf id n = insideOf id n' := Piece.placeholder.inj hm
      have htoken : placeholder id n = placeholder id n' := by
        rw [← String.toList_inj, toList_placeholder, toList_placeholder, hinside]
      rw [(placeholder_injective hid hid htoken).2]

end DeferredViews.Deferred

namespace DeferredViews.View

open Deferred Template

namespace Plan

/-- Nothing but places holds a delimiter. -/
def Clean : Plan → Prop
  | ended _ => True
  | page row _ => row.Clean

/-- All calls are of helpers among the globals. -/
def CallsGlobals (globals : Locals) : Plan → Prop
  | ended _ => True
  | page _ calls =>
    ∀ c ∈ calls, ∃ n name, globals.get? n = some (.function (.deferred name c.helper))

/-- The calls of a plan depend on their arguments alone if those of the globals do. -/
theorem CallsGlobals.steady {globals : Locals} {helpers : List Helper} {plan : Plan}
    (h : plan.CallsGlobals globals)
    (hsteady : ∀ n name i, globals.get? n = some (.function (.deferred name i)) →
      ∀ c : Pending, c.helper = i → c.Steady helpers) : plan.Steady helpers := by
  cases plan with
  | ended x => trivial
  | page row calls =>
    intro c hc
    obtain ⟨n, name, hn⟩ := h c hc
    exact hsteady n name c.helper hn c rfl

section Congruence

variable {id : String} (hid : IsRegistryId id) {plan plan' : Plan} (h : plan.Clean)
  (h' : plan'.Clean) {q : Nat} (hstage : plan.stage id q = plan'.stage id q)

include hid h h' hstage

end Congruence

end Plan

/-- Two renders, with ids of their own, that follow one plan from some stages on. -/
def FollowPlan (r : Request) (globals : Locals) (id id' : String) (q n : Nat)
    (a b : Stage × Site) : Prop :=
  ∃ plan : Plan, plan.Clean ∧ plan.CallsGlobals globals ∧
    ∀ m, n ≤ m → draft r m a = plan.stage id q ∧ draft r m b = plan.stage id' q

namespace FollowPlan

variable {r : Request} {globals : Locals} {id id' : String} {q n : Nat}

theorem mono {k : Nat} {a b : Stage × Site} (h : FollowPlan r globals id id' q n a b)
    (hnk : n ≤ k) : FollowPlan r globals id id' q k a b := by
  obtain ⟨plan, hclean, hglobals, hdraft⟩ := h
  exact ⟨plan, hclean, hglobals, fun m hm => hdraft m (Nat.le_trans hnk hm)⟩

theorem ended (x : Except Stop String) (s t : Site) :
    FollowPlan r globals id id' q n (.ended x, s) (.ended x, t) :=
  ⟨.ended x, trivial, trivial, fun m _ => ⟨draft_ended r m x s, draft_ended r m x t⟩⟩

/-- Two early stages that lead to such renders. -/
theorem ofStep {a b : Stage} {s t : Site}
    (h : FollowPlan r globals id id' q n (a.step r s) (b.step r t)) (ha : a.IsEarly)
    (hb : b.IsEarly) : FollowPlan r globals id id' q (n + 1) (a, s) (b, t) := by
  have hearly : ∀ {c : Stage} (m : Nat) (u : Site), c.IsEarly →
      draft r (m + 1) (c, u) = draft r m (c.step r u) := by
    intro c m u hc
    cases c with
    | settling => exact hc.elim
    | ended => exact hc.elim
    | _ => rfl
  obtain ⟨plan, hclean, hglobals, hdraft⟩ := h
  refine ⟨plan, hclean, hglobals, fun m hm => ?_⟩
  obtain ⟨m, rfl⟩ : ∃ k, m = k + 1 := ⟨m - 1, by omega⟩
  rw [hearly m s ha, hearly m t hb]
  exact hdraft m (Nat.le_of_succ_le_succ hm)

end FollowPlan

namespace Fitting

variable {shape : Shape} {r : Request} {s : Site}

end Fitting
end DeferredViews.View
