import DeferredViews.Proofs.Pairing

/-!
# Deferred helpers and helpers on the spot

A site can be changed so that an engine calls its deferred helpers on the spot, each answering with
its value as markup. A template of the shape then prints the same page on both sites but for the
places of values: on one site they hold placeholders, on the other the values.
-/
namespace DeferredViews.Deferred

/-- A helper that answers on the spot, with the text of its value as markup. -/
def Helper.inlined (h : Helper) : Helper :=
  { h with
    isTask := false
    body := fun call =>
      match h.body call with
      | .value v => .value (.markup (resolvedText v))
      | reply => reply }

/-- A helper answers every call in time, with a value that depends on the arguments alone and whose
text holds no delimiter. -/
structure Helper.Answers (deadline : Option Deadline) (h : Helper) : Prop where
  value : ∀ args kwargs, ∃ v, (∀ earlier, h.body ⟨args, kwargs, earlier⟩ = .value v) ∧
    tainted (resolvedText v).toList = false
  inTime : ∀ d, deadline = some d → d.immediate = true → h.rounds ≤ 2

/-- Call a helper on the spot that was a deferred one. -/
theorem callNow_inlined {h : Helper} {args : List Value} {kwargs : Locals} {v : Value}
    (hbody : ∀ earlier, h.body ⟨args, kwargs, earlier⟩ = .value v) (scope : Option Nat) {j : Nat}
    {a : Activity} (hj : a.helpers[j]? = some h.inlined) :
    callNow scope (.immediate j) args kwargs a =
      (.ok (.markup (resolvedText v)), (a.start j h.inlined).2) := by
  have hanswer : ∀ earlier, h.inlined.body ⟨args, kwargs, earlier⟩ =
      .value (.markup (resolvedText v)) := by
    intro earlier
    rw [Helper.inlined]
    dsimp only
    rw [hbody earlier]
  have hspot : ¬ h.inlined.isTask = true := Bool.false_ne_true
  rw [callNow_immediate, hj]
  dsimp only
  rw [if_neg hspot, hanswer]
  rfl

end DeferredViews.Deferred

namespace DeferredViews.View

open Deferred Template

/-- A deferred helper becomes one that is called on the spot and stands so many places further on. -/
def inlined (offset : Nat) : Value → Value
  | .function (.deferred _ helper) => .function (.immediate (offset + helper))
  | v => v

/-- An engine that calls its deferred helpers on the spot. -/
def Engine.inlined (offset : Nat) (e : Engine) : Engine :=
  { e with globals := e.globals.map fun (n, v) => (n, View.inlined offset v) }

/-- A site on which an engine calls its deferred helpers on the spot. -/
def Site.inlined (s : Site) (e : Nat) : Site :=
  { s with
    activity := { s.activity with
      helpers := s.activity.helpers ++ s.activity.helpers.map Helper.inlined } }.setEngine e
    ((s.engine e).inlined s.activity.helpers.length)

/-- What the numbered places of a page will hold. -/
def Ledger.fill (helpers : List Helper) (w : Ledger) (n : Nat) : String :=
  (w.calls[n]?).elim "" fun c => outcomeText (c.given helpers)

theorem Ledger.fill_lasting (helpers : List Helper) : Lasting (fill helpers) := by
  rintro w v n ⟨more, hmore⟩ hn
  rw [fill, fill, ← hmore, List.getElem?_append_left hn]

/-- The call that was put off last fills its place with its value. -/
theorem Ledger.fill_last {helpers : List Helper} {c : Pending} {value : Value}
    (hgiven : c.given helpers = some (.value value)) (calls : List Pending) :
    Ledger.fill helpers ⟨calls ++ [c]⟩ calls.length = resolvedText value := by
  rw [Ledger.fill, List.getElem?_append_right (Nat.le_refl _), Nat.sub_self]
  show outcomeText (c.given helpers) = _
  rw [hgiven]
  rfl

/-- A deferred helper and the helper on the spot that takes its place. -/
def Takes (deadline : Option Deadline) (helpers : List Helper) (a b : Value) : Prop :=
  ∃ name i h, a = .function (.deferred name i) ∧
    b = .function (.immediate (helpers.length + i)) ∧ helpers[i]? = some h ∧ h.Answers deadline

/-- A call of a helper that answers. -/
def Answered (deadline : Option Deadline) (helpers : List Helper) (c : Pending) : Prop :=
  ∃ h, helpers[c.helper]? = some h ∧ h.Answers deadline

theorem Answered.given {deadline : Option Deadline} {helpers : List Helper} {c : Pending}
    (h : Answered deadline helpers c) :
    ∃ v, c.given helpers = some (.value v) ∧ tainted (resolvedText v).toList = false ∧
      c.Steady helpers := by
  obtain ⟨helper, hhelper, hanswers⟩ := h
  obtain ⟨v, hbody, huntainted⟩ := hanswers.value c.args c.kwargs
  refine ⟨v, ?_, huntainted, helper, some (.value v), hhelper, ?_⟩
  · rw [Pending.given, hhelper]
    dsimp only
    rw [hbody 0]
    rfl
  · intro earlier
    rw [hbody earlier]
    rfl

/-- Every deferred helper among the globals answers. -/
def HelpersAnswer (deadline : Option Deadline) (helpers : List Helper) (globals : Locals) : Prop :=
  ∀ n name i, globals.get? n = some (.function (.deferred name i)) →
    ∃ h, helpers[i]? = some h ∧ h.Answers deadline

theorem get?_inlined (offset : Nat) (globals : Locals) (n : String) :
    Locals.get? (globals.map fun (m, v) => (m, inlined offset v)) n =
      (globals.get? n).map (inlined offset) := by
  induction globals with
  | nil => rfl
  | cons entry globals ih =>
    obtain ⟨m, v⟩ := entry
    rw [List.map_cons, Locals.get?, Locals.get?, List.lookup_cons, List.lookup_cons]
    cases n == m with
    | true => rfl
    | false => exact ih

theorem inlined_of_isPlain (offset : Nat) {v : Value} (h : v.isPlain = true) :
    inlined offset v = v := by
  cases v with
  | function f =>
    rw [Value.isPlain] at h
    cases h
  | _ => rfl

/-- Global names and those with helpers on the spot. -/
theorem globals_relate {W : Type} {T : W → String → String → Prop} {deadline : Option Deadline}
    {helpers : List Helper} {globals : Locals} (h : HelpersAnswer deadline helpers globals) (w : W)
    (n : String) :
    (globalKinds globals).Relates (Takes deadline helpers) T w n (globals.get? n)
      (Locals.get? (globals.map fun (m, v) => (m, inlined helpers.length v)) n) := by
  intro kind hkind
  rw [get?_inlined]
  rw [globalKinds] at hkind
  cases hvalue : globals.get? n with
  | none => exact .none
  | some v =>
    rw [hvalue] at hkind
    refine .some ?_
    -- Every value but a deferred helper has to be plain.
    have hplain : (if v.isPlain = true then some Kind.plain else none) = some kind →
        kind.Relates (Takes deadline helpers) T w v (inlined helpers.length v) := by
      intro hif
      split at hif
      · next hv =>
        cases hif
        exact ⟨(inlined_of_isPlain _ hv).symm, hv⟩
      · cases hif
    cases v with
    | function f =>
      cases f with
      | deferred name i =>
        cases hkind
        obtain ⟨helper, hi, hanswers⟩ := h n name i hvalue
        exact ⟨name, i, helper, rfl, rfl, hi, hanswers⟩
      | immediate i => exact hplain hkind
    | _ => exact hplain hkind

/-- What the helpers of both sites do: the calls of the first are put off, and those of the second
are answered. -/
structure OnSpot (deadline : Option Deadline) (helpers : List Helper) (id : String) (q p : Nat)
    (w : Ledger) (a b : Activity) : Prop where
  known : a.helpers = helpers ∧ b.helpers = helpers ++ helpers.map Helper.inlined
  defers : Defers id q w.calls a
  nothing : (b.registry p).pending = []
  answered : ∀ c ∈ w.calls, Answered deadline helpers c

/-- A helper that is put off leaves the place of its call, and on the spot it prints its value. -/
theorem onSpot_counterparts {deadline : Option Deadline} {helpers : List Helper} {globals : Locals}
    (hanswer : HelpersAnswer deadline helpers globals) (id : String) (q p : Nat) :
    Counterparts globals (globals.map fun (m, v) => (m, inlined helpers.length v)) id
      (Ledger.fill helpers) q p (Takes deadline helpers) (OnSpot deadline helpers id q p) := by
  refine ⟨Ledger.fill_lasting helpers, fun w n => globals_relate hanswer w n, ?_⟩
  rintro _ _ ⟨name, i, h, rfl, rfl, hi, hanswers⟩
  refine ⟨_, _, rfl, rfl, ?_⟩
  intro w args kwargs a b hab
  obtain ⟨value, hbody, huntainted⟩ := hanswers.value args kwargs
  have hi' : b.helpers[helpers.length + i]? = some h.inlined := by
    rw [hab.known.2, List.getElem?_append_right (Nat.le_add_right _ _), Nat.add_sub_cancel_left,
      List.getElem?_map, hi]
    rfl
  obtain ⟨htoken, hdefers⟩ := hab.defers.register name i args kwargs
  generalize hc : (⟨placeholder id w.calls.length, calledName a.helpers name i, i, args, kwargs⟩ :
    Pending) = c at hdefers
  have hgiven : c.given helpers = some (.value value) := by
    rw [← hc, Pending.given, hi]
    dsimp only
    rw [hbody 0]
    rfl
  have hanswered : ∀ d ∈ w.calls ++ [c], Answered deadline helpers d := by
    intro d hd
    rcases List.mem_append.mp hd with hd | hd
    · exact hab.answered d hd
    · rw [List.mem_singleton.mp hd, ← hc]
      exact ⟨h, hi, hanswers⟩
  rw [callNow_deferred, callNow_inlined hbody (some p) hi', htoken]
  refine ⟨⟨w.calls ++ [c]⟩, List.prefix_append _ _, ⟨⟨hab.known.1, hab.known.2⟩, hdefers,
    hab.nothing, hanswered⟩, .ok ⟨_, _, rfl, rfl, shows_last id (Ledger.fill_last hgiven w.calls)⟩⟩

end DeferredViews.View
