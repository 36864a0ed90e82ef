import DeferredViews.Proofs.Renaming
import Mathlib.Logic.Function.Basic

/-!
# Renders side by side

Several renders on one site take turns in any order; while they wait, the tasks of their helpers
take turns as well. No render notices the others: each ends as it does alone, waits for its own
calls with its own page, and runs its layout over the content of its own page.
-/
namespace DeferredViews.View

open Deferred Template

/-- A turn of one of several renders: it goes on itself, or a task that it waits for does. -/
inductive Turn (ι : Type) where
  | call (i : ι)
  | task (i : ι) (k : Nat)
  deriving DecidableEq

/-- Several renders and their site. -/
abbrev Renders (ι : Type) := (ι → Stage) × Site

variable {ι : Type} [DecidableEq ι]

def Turn.take (calls : ι → Request) (w : Renders ι) : Turn ι → Renders ι
  | .call i =>
    let x := (w.1 i).step (calls i) w.2
    (Function.update w.1 i x.1, x.2)
  | .task i k =>
    let x := (w.1 i).stepTask k w.2
    (Function.update w.1 i x.1, x.2)

/-- Renders that a plan each settles. Those that share their options have pages that do not read
`body`. -/
structure Apart (calls : ι → Request) (s : Site) (plans : ι → Plan) : Prop where
  orderly : s.Orderly
  predictable : ∀ i, Predictable (calls i) s (plans i)
  bodies : ∀ i j, i ≠ j → (calls i).options = (calls j).options → IgnoresBody (calls i) s

/-- Every render is as far as its own turns took it, with a registry that is no other's. -/
structure Together (calls : ι → Request) (s : Site) (plans : ι → Plan) (count : ι → Nat)
    (w : Renders ι) : Prop where
  shared : s.Shared w.2
  progress : ∀ i, Progress (calls i) s (plans i) w.2 (count i) (w.1 i)
  apart : ∀ i j q, i ≠ j → (w.1 i).held? = some q → (w.1 j).held? ≠ some q

namespace Together

variable {calls : ι → Request} {s : Site} {plans : ι → Plan} {count : ι → Nat} {w : Renders ι}

omit [DecidableEq ι] in
/-- The registry of a turn is none of another render. -/
theorem registry_ne (h : Together calls s plans count w) {i j : ι} (hij : i ≠ j) :
    (w.1 j).held? ≠ some ((w.1 i).held?.getD w.2.activity.registries.length) := by
  cases hi : (w.1 i).held? with
  | some q => exact h.apart i j q hij hi
  | none =>
    intro hj
    have hroom := (h.progress j).room hj
    exact Nat.lt_irrefl _ hroom.2

/-- What a turn of one render leaves of the others. -/
theorem update (hapart : Apart calls s plans) (h : Together calls s plans count w) {i : ι}
    {x : Stage × Site} {n : Nat}
    (hspares : Spares (calls i) s ((w.1 i).held?.getD w.2.activity.registries.length) w.2 x.2)
    (hprogress : Progress (calls i) s (plans i) x.2 n x.1)
    (hregistry : ∀ q, x.1.held? = some q →
      q = (w.1 i).held?.getD w.2.activity.registries.length) :
    Together calls s plans (Function.update count i n) (Function.update w.1 i x.1, x.2) := by
  refine ⟨h.shared.spares hspares, ?_, ?_⟩
  · intro j
    by_cases hji : j = i
    · subst hji
      simpa using hprogress
    · have hother := (h.progress j).interfere hspares (h.registry_ne (Ne.symm hji))
        (fun hoptions => hapart.bodies j i hji hoptions.symm)
      simpa [hji] using hother
  · intro j k q hjk hj hk
    by_cases hji : j = i
    · subst hji
      simp only [Function.update_self] at hj
      simp only [Function.update_of_ne (Ne.symm hjk)] at hk
      rw [hregistry q hj] at hk
      exact h.registry_ne hjk hk
    · simp only [Function.update_of_ne hji] at hj
      by_cases hki : k = i
      · subst hki
        simp only [Function.update_self] at hk
        rw [hregistry q hk] at hj
        exact h.registry_ne (Ne.symm hjk) hj
      · simp only [Function.update_of_ne hki] at hk
        exact h.apart j k q hjk hj hk

theorem take (hapart : Apart calls s plans) (h : Together calls s plans count w) (turn : Turn ι) :
    Together calls s plans (fun i => count i + if turn = .call i then 1 else 0)
      (turn.take calls w) := by
  cases turn with
  | call i =>
    obtain ⟨hspares, hprogress, hregistry⟩ :=
      (h.progress i).turn (hapart.predictable i) hapart.orderly h.shared
    have hnext := h.update hapart hspares hprogress hregistry
    have hcount : Function.update count i (count i + 1) =
        fun j => count j + if (Turn.call i : Turn ι) = .call j then 1 else 0 := by
      funext j
      by_cases hji : j = i
      · simp [hji]
      · simp [hji, Ne.symm hji]
    rw [hcount] at hnext
    exact hnext
  | task i k =>
    obtain ⟨hspares, hprogress, hregistry⟩ := (h.progress i).stepTask h.shared k
    have hnext := h.update hapart hspares hprogress (fun q hq => by
      rw [hregistry] at hq
      rw [hq]
      rfl)
    have hcount : (fun j => count j + if (Turn.task i k : Turn ι) = .call j then 1 else 0) =
        count := by
      simp
    rw [Function.update_eq_self] at hnext
    rw [hcount]
    exact hnext

theorem foldl (hapart : Apart calls s plans) (turns : List (Turn ι))
    (h : Together calls s plans count w) :
    Together calls s plans (fun i => count i + turns.count (.call i))
      (turns.foldl (Turn.take calls) w) := by
  induction turns generalizing count w with
  | nil => simpa using h
  | cons turn more ih =>
    have hmore := ih (h.take hapart turn)
    have hcount : (fun i => count i + (if turn = .call i then 1 else 0) + more.count (.call i)) =
        fun i => count i + (turn :: more).count (.call i) := by
      funext i
      rw [List.count_cons]
      simp only [beq_iff_eq]
      omega
    rw [hcount] at hmore
    exact hmore

end Together

/-- A helper that pauses once. -/
def slowly : Helper :=
  { name := "load"
    doc := none
    isTask := true
    pauses := 1
    body := fun call => .value (.str (if call.args.isEmpty then "none" else "<b>")) }

/-- A page that prints a helper after some text. -/
def greeting (text : String) : Template :=
  ⟨none, [.text text, .print (.call (.name "load") [.value (.const (.int 1))])]⟩

def brackets : Template := ⟨none, [.text "[", .print (.name "body"), .text "]"]⟩

/-- Two pages with a helper, and a layout for both. -/
def greetingSite : Site :=
  { files := ⟨[], []⟩
    engines :=
      [{ cache := 0, partialExtensions := [], globals := [("load", .function (.deferred "load" 0))] }]
    caches :=
      [⟨[(("file", "/v/a.html"), ⟨0, greeting "A"⟩), (("file", "/v/b.html"), ⟨0, greeting "B"⟩),
        (("layout", "layout"), ⟨0, brackets⟩)]⟩]
    options := [[]]
    activity :=
      { ids := fun q => String.ofList (List.replicate (q + 1) '0'), helpers := [slowly] } }

/-- Renders of both pages over the same options. -/
def greetings (second : Bool) : Request := ⟨0, if second then "/v/b.html" else "/v/a.html", 0⟩

def greetingText (second : Bool) : String := if second then "B" else "A"

section Greetings

variable {σ : Type} {h : Template.Host σ} (hescape : h.autoescape = true)
  (hglobals : h.globals = [("load", .function (.deferred "load" 0))])

include hescape hglobals

theorem run_greeting (text : String) {locals : Locals}
    (hlocals : locals = [] ∨ ∃ v, locals = [("body", v)]) :
    (greeting text).run h locals =
      (fun v => text ++ v.html) <$> h.call (.deferred "load" 0) [.int 1] [] := by
  have hload : (Scope.ofLocals (h.globals.update locals) (greeting text).body).value "load" =
      .function (.deferred "load" 0) := by
    rw [hglobals]
    rcases hlocals with rfl | ⟨v, rfl⟩ <;> rfl
  rw [greeting] at hload
  rw [Template.run, includeDepth, Template.runWithin, greeting]
  simp only [runAll, Stmt.run, Expr.eval, evalArguments, hload, hescape, pure_bind, bind_assoc,
    map_eq_pure_bind, callValue, Value.printed, if_true, String.append_empty]
  rfl

end Greetings

end DeferredViews.View
