import DeferredViews.Proofs.Inlining
import DeferredViews.Proofs.Settlement

/-!
# Deferring changes no page

What a render prints with its helpers deferred is what it would print with its helpers called on the
spot: the page and its layout are one row for both, and every place of the row is filled with the
value that stands there otherwise.
-/
namespace DeferredViews.View

open Deferred Template Files

variable {deadline : Option Deadline} {r : Request} {id : String} {q p : Nat}

/-- Calls that all answer with texts without delimiters come to their values. -/
theorem verdict_answered {helpers : List Helper} (limit : Option Deadline) {calls : List Pending}
    (h : ∀ c ∈ calls, Answered deadline helpers c) :
    verdict limit (calls.map fun c => (c, c.given helpers)) =
      .ok (calls.map fun c => (c.token, outcomeText (c.given helpers))) := by
  have hmem : ∀ x ∈ calls.map (fun c => (c, c.given helpers)), ∃ v, x.2 = some (.value v) ∧
      tainted (resolvedText v).toList = false := by
    intro x hx
    obtain ⟨c, hc, rfl⟩ := List.mem_map.mp hx
    obtain ⟨v, hv, huntainted, -⟩ := (h c hc).given
    exact ⟨v, hv, huntainted⟩
  have hstalled : (calls.map fun c => (c, c.given helpers)).find? (·.2.isNone) = none := by
    rw [List.find?_eq_none]
    intro x hx
    obtain ⟨v, hv, -⟩ := hmem x hx
    rw [hv]
    exact Bool.false_ne_true
  have hcancelled : (calls.map fun c => (c, c.given helpers)).findSome? ownCancellation? = none := by
    rw [List.findSome?_eq_none_iff]
    intro x hx
    obtain ⟨v, hv, -⟩ := hmem x hx
    obtain ⟨c, o⟩ := x
    cases hv
    rfl
  have hfailed : (calls.map fun c => (c, c.given helpers)).findSome? ownFailure? = none := by
    rw [List.findSome?_eq_none_iff]
    intro x hx
    obtain ⟨v, hv, -⟩ := hmem x hx
    obtain ⟨c, o⟩ := x
    cases hv
    rfl
  have hunsafe : (calls.map fun c => (c, c.given helpers)).find? isUnsafe = none := by
    rw [List.find?_eq_none]
    intro x hx
    obtain ⟨v, hv, huntainted⟩ := hmem x hx
    rw [isUnsafe, hv, outcomeText, huntainted]
    exact Bool.false_ne_true
  rw [verdict, hstalled, hcancelled, hfailed, hunsafe, List.map_map]
  rfl

/-- The values of the calls fill the places of a row. -/
theorem complete_row (hid : IsRegistryId id) (registry : Nat) {helpers : List Helper}
    {calls : List Pending} (hne : calls ≠ []) (hnumbered : Numbered id calls)
    (h : ∀ c ∈ calls, Answered deadline helpers c) {row : Row} (hclean : row.Clean)
    (hslots : ∀ n, Mark.slot n ∈ row → n < calls.length) (s : Site) :
    (complete r registry (row.text id)
      (calls.map fun c => (c.token, outcomeText (c.given helpers))) s).1 =
      .ok (row.filled (Ledger.fill helpers ⟨calls⟩)) ∧
    tainted (row.filled (Ledger.fill helpers ⟨calls⟩)).toList = false := by
  have hvalues : calls.map (fun c => (c.token, outcomeText (c.given helpers))) ≠ [] := by
    rw [Ne, List.map_eq_nil_iff]
    exact hne
  have hfilled : substitute (calls.map fun c => (c.token, outcomeText (c.given helpers)))
      (row.text id) = row.filled (Ledger.fill helpers ⟨calls⟩) := by
    rw [Row.substitute_text hid hclean]
    refine Row.filled_congr fun n hn => ?_
    have hlength := hslots n hn
    rw [lookup_numbered hid hnumbered, Ledger.fill, List.getElem?_eq_getElem hlength]
    rfl
  have huntainted : tainted (row.filled (Ledger.fill helpers ⟨calls⟩)).toList = false := by
    refine Row.tainted_filled hclean fun n hn => ?_
    have hlength := hslots n hn
    rw [Ledger.fill, List.getElem?_eq_getElem hlength]
    obtain ⟨v, hv, hsafe, -⟩ := (h _ (List.getElem_mem hlength)).given
    show tainted (outcomeText _).toList = false
    rw [hv]
    exact hsafe
  refine ⟨?_, huntainted⟩
  rw [complete_eq r registry _ hvalues, hfilled, huntainted]
  rfl

/-- Calls that all answer need at most so many rounds, and two if there is no time to wait at all. -/
theorem rounds_answered {helpers : List Helper} {calls : List Pending}
    (h : ∀ c ∈ calls, Answered deadline helpers c) :
    ∃ n, n + 1 ≤ slowest helpers + 2 ∧
      (∀ c ∈ calls, ∀ helper, helpers[c.helper]? = some helper → helper.rounds ≤ n + 1) ∧
      ∀ d, deadline = some d → d.immediate = true → 0 + (n + 1) ≤ 2 := by
  by_cases himmediate : ∃ d, deadline = some d ∧ d.immediate = true
  · obtain ⟨d, hd, hd'⟩ := himmediate
    refine ⟨1, by omega, ?_, fun _ _ _ => Nat.le_refl 2⟩
    intro c hc helper hhelper
    obtain ⟨known, hknown, hanswers⟩ := h c hc
    cases hhelper.symm.trans hknown
    exact hanswers.inTime d hd hd'
  · refine ⟨slowest helpers, by omega, ?_, ?_⟩
    · exact fun c _ helper hhelper => rounds_le_slowest (List.mem_of_getElem? hhelper)
    · exact fun d hd hd' => absurd ⟨d, hd, hd'⟩ himmediate

/-- How a page ends whose calls all answer: completed with their values. -/
theorem closePage_answered {s : Site} {calls : List Pending} (rendered : String)
    (hpending : (s.activity.registry q).pending = calls) (hne : calls ≠ [])
    (hdeadline : deadlineOf (s.engine r.engine).timeout = .ok deadline)
    (hanswered : ∀ c ∈ calls, Answered deadline s.activity.helpers c) {m : Nat}
    (hm : slowest s.activity.helpers + 2 ≤ m) :
    (runStages r m (Stage.after (closePage r q rendered s)).1
        (Stage.after (closePage r q rendered s)).2).1 =
      .ended (complete r q rendered
        (calls.map fun c => (c.token, outcomeText (c.given s.activity.helpers)))
        { s with activity := (s.activity.takePending q).2 }).1 := by
  have hsteady : ∀ c ∈ calls, c.Steady s.activity.helpers := by
    intro c hc
    obtain ⟨value, -, -, hsteady⟩ := (hanswered c hc).given
    exact hsteady
  have hanswer : ∀ task ∈ (Settling.ofPending calls).tasks,
      task.call.given s.activity.helpers ≠ none := by
    intro task htask
    obtain ⟨c, hc, rfl⟩ := List.mem_map.mp htask
    obtain ⟨value, hvalue, -, -⟩ := (hanswered c hc).given
    exact ne_of_eq_of_ne hvalue (Option.some_ne_none _)
  obtain ⟨n, hn, hrounds, htime⟩ := rounds_answered hanswered
  have hwithin : (Settling.ofPending calls).Within s.activity.helpers (n + 1) := by
    intro task htask h hh
    obtain ⟨c, hc, rfl⟩ := List.mem_map.mp htask
    exact hrounds c hc h hh
  have hend := runStages_settling r q rendered n
    (w := .ofPending calls) (s := { s with activity := (s.activity.takePending q).2 }) hdeadline
    (Settling.follows_ofPending hsteady) rfl hanswer hwithin htime (m := m) (by omega)
  have hhelpers : (s.activity.takePending q).2.helpers = s.activity.helpers := rfl
  rw [closePage_cons r _ (hpending ▸ hne), hdeadline, hpending]
  show (runStages r m (.settling q rendered 0 (.ofPending calls))
    { s with activity := (s.activity.takePending q).2 }).1 = _
  rw [hend, Settling.call_ofPending, hhelpers, verdict_answered deadline hanswered]
  rfl

/-- How a render ends once its page is a row: with the values in its places. -/
theorem closePage_ends (hid : IsRegistryId id) {helpers : List Helper} {v : Ledger} {s : Site}
    (hdeadline : deadlineOf (s.engine r.engine).timeout = .ok deadline) {b : Activity}
    (hst : OnSpot deadline helpers id q p v s.activity b) {rendered html : String}
    (hshows : Shows id (Ledger.fill helpers) v rendered html) :
    tainted html.toList = false ∧ ∀ m, slowest helpers + 2 ≤ m →
      (runStages r m (Stage.after (closePage r q rendered s)).1
        (Stage.after (closePage r q rendered s)).2).1 = .ended (.ok html) := by
  by_cases hcalls : v.calls = []
  · obtain ⟨rfl, huntainted⟩ := shows_of_nil hshows hcalls
    obtain ⟨log, hclose⟩ := closePage_nil r rendered (hst.defers.pending.trans hcalls)
    refine ⟨huntainted, fun m _ => ?_⟩
    rw [hclose]
    show (runStages r m (.ended (.ok rendered)) _).1 = _
    rw [runStages_ended]
  · obtain ⟨row, hclean, hslots, rfl, rfl⟩ := hshows
    obtain ⟨hcomplete, huntainted⟩ := complete_row (r := r) hid q hcalls hst.defers.numbered
      hst.answered hclean hslots { s with activity := (s.activity.takePending q).2 }
    refine ⟨huntainted, fun m hm => ?_⟩
    have hanswered := hst.answered
    rw [← hst.known.1] at hm hanswered hcomplete
    rw [closePage_answered _ hst.defers.pending hcalls hdeadline hanswered hm, hcomplete,
      hst.known.1]

end DeferredViews.View
