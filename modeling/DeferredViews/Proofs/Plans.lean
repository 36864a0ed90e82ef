import DeferredViews.Proofs.Settlement
import DeferredViews.Proofs.Tokens

/-!
# What a render plans

A render brings a page together before it waits for helpers. When its templates print placeholders
whole, this page is a row, and the id of the registry is no part of it nor of the calls that were
put off. What the render comes to is then settled by the row and by what the calls come to.
-/
namespace DeferredViews.Deferred

/-- The calls with the placeholders of an id, in order. -/
def renumber (id : String) (calls : List Pending) : List Pending :=
  calls.zipIdx.map fun c => { c.1 with token := placeholder id c.2 }

theorem length_renumber (id : String) (calls : List Pending) :
    (renumber id calls).length = calls.length := by
  simp [renumber]

theorem getElem?_renumber (id : String) (calls : List Pending) (n : Nat) :
    (renumber id calls)[n]? = calls[n]?.map fun c => { c with token := placeholder id n } := by
  simp [renumber, List.getElem?_zipIdx, Function.comp_def]

theorem numbered_renumber (id : String) (calls : List Pending) : Numbered id (renumber id calls) := by
  intro i c hc
  rw [getElem?_renumber] at hc
  obtain ⟨d, -, rfl⟩ := Option.map_eq_some_iff.mp hc
  rfl

/-- What does not look at placeholders is the same for all calls. -/
theorem map_renumber {α : Type} {f : Pending → α} (hf : ∀ c token, f { c with token } = f c)
    (id : String) (calls : List Pending) : (renumber id calls).map f = calls.map f := by
  have hfst : (calls.zipIdx.map Prod.fst).map f = calls.map f := by
    rw [List.zipIdx_map_fst]
  rw [renumber, List.map_map, ← hfst, List.map_map]
  apply List.map_congr_left
  intro c _
  exact hf c.1 _

theorem mem_renumber {id : String} {calls : List Pending} {c : Pending}
    (h : c ∈ renumber id calls) : ∃ d ∈ calls, ∃ n, c = { d with token := placeholder id n } := by
  obtain ⟨⟨d, n⟩, hd, rfl⟩ := List.mem_map.mp h
  exact ⟨d, (List.mem_zipIdx' hd).2 ▸ List.getElem_mem _, n, rfl⟩

/-- Whether a mark is left nothing of once so many calls have values. -/
def Mark.isKnown (count : Nat) : Mark → Bool
  | .plain c => decide (c ≠ delimiter)
  | .slot n => decide (n < count)

/-- The name of the first call whose place is missing. -/
def Row.culprit (calls : List Pending) (row : Row) : String :=
  (calls.zipIdx.find? fun c => !decide (Mark.slot c.2 ∈ row)).elim "<unknown>" (·.1.name)

theorem Row.culprit_eq {id : String} (hid : IsRegistryId id) {row : Row} (h : row.Unguessed id)
    {registry : Registry} {calls : List Pending}
    (hnames : registry.names = (renumber id calls).map fun c => (c.token, c.name)) :
    ((((renumber id calls).map (·.token)).find? fun t =>
        !Text.occurs t.toList (row.text id).toList).elim "<unknown>" registry.helperName) =
      row.culprit calls := by
  have htokens : (renumber id calls).map (·.token) =
      calls.zipIdx.map fun c => placeholder id c.2 := by
    simp [renumber]
  rw [htokens, List.find?_map, Row.culprit]
  simp only [Function.comp_def, occurs_text hid h]
  cases hfind : calls.zipIdx.find? fun c => !decide (Mark.slot c.2 ∈ row) with
  | none => rfl
  | some c =>
    obtain ⟨c, n⟩ := c
    have hget : calls[n]? = some c := by
      simpa using List.mk_mem_zipIdx_iff_getElem?.mp (List.mem_of_find?_eq_some hfind)
    have hlookup := lookup_numbered hid (numbered_renumber id calls) (·.name) n
    rw [getElem?_renumber, hget] at hlookup
    show registry.helperName (placeholder id n) = c.name
    rw [Registry.helperName, hnames, hlookup]
    rfl

end DeferredViews.Deferred

namespace DeferredViews.View

open Deferred

/-- The text of what a call comes to. -/
def textOf (helpers : List Helper) (c : Pending) : String := outcomeText (c.given helpers)

/-- The page of a row with the texts of the calls in its places, or its failure. -/
def completeRow (helpers : List Helper) (calls : List Pending) (row : Row) :
    Except Stop String :=
  if row.all (Mark.isKnown calls.length) then
    .ok (row.filled fun n => (calls[n]?.map (textOf helpers)).getD "")
  else
    .error (.failure (.helper (row.culprit calls)
      "placeholder was altered during rendering (was a filter applied to it?)" none))

/-- What a render brings together before it waits: its end, or a row and the calls put off. -/
inductive Plan where
  | ended (x : Except Stop String)
  | page (row : Row) (calls : List Pending)

namespace Plan

/-- The stage that a render has come to with a plan. -/
def stage (id : String) (registry : Nat) : Plan → Stage
  | ended x => .ended x
  | page row calls => .settling registry (row.text id) 0 (.ofPending (renumber id calls))

/-- Nothing that the templates print spells out an id. -/
def Unguessed (id : String) : Plan → Prop
  | ended (.ok html) => ¬ id.toList <:+: html.toList
  | ended (.error _) => True
  | page row _ => row.Unguessed id

/-- The outcomes of all calls depend on their arguments alone. -/
def Steady (helpers : List Helper) : Plan → Prop
  | ended _ => True
  | page _ calls => ∀ c ∈ calls, c.Steady helpers

/-- What a render comes to, unless it waits for ever. -/
def result? (helpers : List Helper) : Plan → Option (Except Stop String)
  | ended x => some x
  | page row calls =>
    if calls.all fun c => (c.given helpers).isSome then
      some ((verdict none (calls.map fun c => (c, c.given helpers))).bind fun _ =>
        completeRow helpers calls row)
    else none

end Plan

/-- To rename placeholders changes no verdict but its keys. -/
theorem verdict_rename {f : Pending → Pending} (hf : ∀ c, (f c).name = c.name)
    (deadline : Option Deadline) (calls : List (Pending × Option Outcome)) :
    verdict deadline (calls.map fun c => (f c.1, c.2)) =
      (verdict deadline calls).map fun _ => calls.map fun c => ((f c.1).token, outcomeText c.2) := by
  have hcancelled : ∀ c : Pending × Option Outcome,
      ownCancellation? (f c.1, c.2) = ownCancellation? c := by
    rintro ⟨c, _ | o⟩
    · rfl
    · cases o <;> rfl
  have hfailed : ∀ c : Pending × Option Outcome, ownFailure? (f c.1, c.2) = ownFailure? c := by
    rintro ⟨c, _ | o⟩
    · rfl
    · cases o <;> simp [ownFailure?, hf]
  have hunsafe : ∀ c : Pending × Option Outcome, isUnsafe (f c.1, c.2) = isUnsafe c := fun _ => rfl
  simp only [verdict, List.find?_map, List.findSome?_map, Function.comp_def, hcancelled, hfailed,
    hunsafe]
  cases calls.find? (·.2.isNone) with
  | some c => simp [hf, Except.map]
  | none =>
    cases calls.findSome? ownCancellation? with
    | some message => rfl
    | none =>
      cases calls.findSome? ownFailure? with
      | some failure => rfl
      | none =>
        cases calls.find? isUnsafe with
        | some c => simp [hf, Except.map]
        | none => simp [Except.map]

/-- The values of a verdict are the texts of the calls, and safe. -/
theorem verdict_ok {deadline : Option Deadline} {calls : List (Pending × Option Outcome)}
    {values : List (String × String)} (h : verdict deadline calls = .ok values) :
    values = calls.map (fun c => (c.1.token, outcomeText c.2)) ∧
      ∀ c ∈ calls, tainted (outcomeText c.2).toList = false := by
  rw [verdict] at h
  split at h
  · cases h
  split at h
  · cases h
  split at h
  · cases h
  split at h
  · cases h
  next hunsafe =>
    refine ⟨(Except.ok.inj h).symm, ?_⟩
    intro c hc
    simpa [isUnsafe] using List.find?_eq_none.mp hunsafe c hc

section Completion

variable {id : String} {row : Row} {calls : List Pending} {helpers : List Helper}

/-- A row whose marks are all known has no delimiter of its own, and only places of its calls. -/
theorem Row.all_isKnown_iff {count : Nat} :
    row.all (Mark.isKnown count) = true ↔ row.Clean ∧ ∀ n, Mark.slot n ∈ row → n < count := by
  rw [List.all_eq_true]
  refine ⟨fun h => ⟨fun hmem => ?_, fun n hmem => ?_⟩, ?_⟩
  · simpa [Mark.isKnown] using h _ hmem
  · simpa [Mark.isKnown] using h _ hmem
  · rintro ⟨hclean, hslots⟩ mark hmem
    cases mark with
    | plain c =>
      have hc : c ≠ delimiter := by
        rintro rfl
        exact hclean hmem
      exact decide_eq_true hc
    | slot n => exact decide_eq_true (hslots n hmem)

theorem lookup_renumber (hid : IsRegistryId id) (n : Nat) :
    ((renumber id calls).map fun c => (c.token, textOf helpers c)).lookup (placeholder id n) =
      calls[n]?.map (textOf helpers) := by
  rw [lookup_numbered hid (numbered_renumber id calls), getElem?_renumber, Option.map_map]
  rfl

/-- With safe texts in all its places, a row holds no delimiter. -/
theorem substitute_known (hid : IsRegistryId id) (hclean : row.Clean)
    (hslots : ∀ n, Mark.slot n ∈ row → n < calls.length)
    (hsafe : ∀ c ∈ calls, tainted (textOf helpers c).toList = false) :
    substitute ((renumber id calls).map fun c => (c.token, textOf helpers c)) (row.text id) =
        row.filled (fun n => (calls[n]?.map (textOf helpers)).getD "") ∧
      tainted (row.filled fun n => (calls[n]?.map (textOf helpers)).getD "").toList = false := by
  refine ⟨?_, Row.tainted_filled hclean fun n hn => ?_⟩
  · rw [Row.substitute_text hid hclean]
    refine Row.filled_congr fun n hn => ?_
    rw [lookup_renumber hid n]
    simp [hslots n hn]
  · simpa [hslots n hn] using hsafe _ (List.getElem_mem (hslots n hn))

/-- A place without a call, and a delimiter of its own, stay in a row. -/
theorem tainted_unknown (hid : IsRegistryId id) (hrow : row.Unguessed id)
    (hunknown : ¬ row.all (Mark.isKnown calls.length) = true) :
    tainted (substitute ((renumber id calls).map fun c => (c.token, textOf helpers c))
      (row.text id)).toList = true := by
  have hkeys : ∀ p ∈ (renumber id calls).map (fun c => (c.token, textOf helpers c)),
      ∃ n, p.1 = placeholder id n := by
    intro p hp
    obtain ⟨c, hc, rfl⟩ := List.mem_map.mp hp
    obtain ⟨d, -, n, rfl⟩ := mem_renumber hc
    exact ⟨n, rfl⟩
  by_cases hclean : row.Clean
  · rw [Row.all_isKnown_iff] at hunknown
    obtain ⟨n, hmem, hn⟩ : ∃ n, Mark.slot n ∈ row ∧ calls.length ≤ n := by
      simpa [hclean] using hunknown
    rw [Row.substitute_text hid hclean, Row.filled, String.toList_ofList,
      Reading.tainted_flatMap, List.any_eq_true]
    refine ⟨.slot n, hmem, ?_⟩
    rw [Mark.inside, lookup_renumber hid n, List.getElem?_eq_none hn]
    exact tainted_placeholder id n
  · exact Row.tainted_substitute hid hrow hkeys (Decidable.not_not.mp hclean)

/-- To complete the page of a row is to fill the row. -/
theorem complete_text (hid : IsRegistryId id) (hrow : row.Unguessed id) (hne : calls ≠ [])
    (hsafe : ∀ c ∈ calls, tainted (textOf helpers c).toList = false) (r : Request) {q : Nat}
    {s : Site} (hnames : (s.activity.registry q).names =
      (renumber id calls).map fun c => (c.token, c.name)) :
    (complete r q (row.text id) ((renumber id calls).map fun c => (c.token, textOf helpers c)) s).1 =
      completeRow helpers calls row := by
  have hvalues : (renumber id calls).map (fun c => (c.token, textOf helpers c)) ≠ [] := by
    have hlength := length_renumber id calls
    intro hnil
    simp only [List.map_eq_nil_iff] at hnil
    rw [hnil] at hlength
    exact hne (List.eq_nil_of_length_eq_zero hlength.symm)
  rw [complete_eq r q _ hvalues, completeRow]
  by_cases hknown : row.all (Mark.isKnown calls.length)
  · obtain ⟨hclean, hslots⟩ := Row.all_isKnown_iff.mp hknown
    obtain ⟨hfilled, huntainted⟩ := substitute_known hid hclean hslots hsafe
    simp [hfilled, huntainted, hknown]
  · have htokens : ((renumber id calls).map fun c => (c.token, textOf helpers c)).map (·.1) =
        (renumber id calls).map (·.token) := by
      simp
    rw [if_pos (tainted_unknown hid hrow hknown), if_neg hknown, alteration, htokens, firstAltered,
      Row.culprit_eq hid hrow hnames]

/-- How the wait of a planned render ends once all its calls have answered. -/
theorem endWith_text (hid : IsRegistryId id) (hrow : row.Unguessed id) (hne : calls ≠ [])
    (hanswer : ∀ c ∈ calls, c.given helpers ≠ none) (r : Request) {q : Nat} {s : Site}
    (hnames : (s.activity.registry q).names =
      (renumber id calls).map fun c => (c.token, c.name)) :
    (Plan.page row calls).result? helpers =
      some (endWith r q (row.text id) s
        (verdict none ((renumber id calls).map fun c => (c, c.given helpers)))) := by
  have hall : calls.all (fun c => (c.given helpers).isSome) = true := by
    rw [List.all_eq_true]
    exact fun c hc => Option.isSome_iff_ne_none.mpr (hanswer c hc)
  -- Both verdicts are the one over the calls without placeholders.
  have hbare : ((renumber id calls).map fun c => (c, c.given helpers)).map
      (fun c => ({ c.1 with token := "" }, c.2)) =
      (calls.map fun c => (c, c.given helpers)).map fun c => ({ c.1 with token := "" }, c.2) := by
    rw [List.map_map, List.map_map]
    exact map_renumber (fun _ _ => rfl) id calls
  have hrename := verdict_rename (f := fun c => { c with token := "" }) (fun _ => rfl) none
    ((renumber id calls).map fun c => (c, c.given helpers))
  rw [hbare, verdict_rename (f := fun c => { c with token := "" }) (fun _ => rfl)] at hrename
  rw [Plan.result?, if_pos hall]
  congr 1
  revert hrename
  cases hverdict : verdict none ((renumber id calls).map fun c => (c, c.given helpers)) with
  | error stop =>
    cases verdict none (calls.map fun c => (c, c.given helpers)) with
    | error stop' =>
      intro hrename
      exact congrArg Except.error (Except.error.inj hrename)
    | ok values => exact nofun
  | ok values =>
    cases hverdict' : verdict none (calls.map fun c => (c, c.given helpers)) with
    | error stop' => exact nofun
    | ok values' =>
      intro _
      have hvalues := (verdict_ok hverdict).1
      rw [List.map_map] at hvalues
      have hsafe : ∀ c ∈ calls, tainted (textOf helpers c).toList = false := by
        intro c hc
        exact (verdict_ok hverdict').2 (c, c.given helpers) (List.mem_map.mpr ⟨c, hc, rfl⟩)
      rw [hvalues]
      exact (complete_text hid hrow hne hsafe r hnames).symm

end Completion

end DeferredViews.View
