import DeferredViews.Proofs.Early
import DeferredViews.Proofs.Equivalence
import DeferredViews.Proofs.Parts

/-!
# Rendering with helpers on the spot

A render whose templates print their helpers whole ends as it would with its helpers called on the
spot: with the same page, free of placeholders, or with the same failure, for which no helper is
blamed.
-/
namespace DeferredViews.View

open Deferred Template Files

/-- A result that blames no helper. -/
def Blameless {α : Type} (x : Except Stop α) : Prop :=
  ∀ name message cause, x ≠ .error (.failure (.helper name message cause))

/-- A stage that is no end, or an end that blames no helper. -/
abbrev Unblamed (stage : Stage) : Prop := ∀ x, stage = .ended x → Blameless x

/-- A step that begins before any waiting blames no helper. -/
theorem step_unblamed (r : Request) {stage : Stage} (h : stage.IsEarly) (s : Site) :
    Unblamed (stage.step r s).1 := by
  obtain ⟨q, hearly⟩ : ∃ q, (stage.step r s).1.Early (fun _ => True) q := by
    have hspared : ∀ q, Spared (fun _ => True) q fun _ => True := fun q =>
      ⟨fun _ _ _ _ _ _ _ => trivial, fun _ _ _ _ _ _ => trivial, fun _ _ _ _ => trivial,
        fun _ _ _ => trivial, fun _ _ => trivial⟩
    cases stage with
    | opening => exact ⟨_, (opening_early (hspared _) r trivial trivial).1⟩
    | readingLayout q name path => exact ⟨q, (step_early (hspared q) r h rfl trivial).1⟩
    | readingPage q layout => exact ⟨q, (step_early (hspared q) r h rfl trivial).1⟩
    | settling q page rounds w => exact h.elim
    | ended x => exact h.elim
  rintro _ heq name message cause rfl
  rw [heq] at hearly
  exact hearly

/-- A result that blames no helper and whose page is free of delimiters. -/
structure Clear (x : Except Stop String) : Prop where
  blameless : Blameless x
  untainted : ∀ html, x = .ok html → tainted html.toList = false

/-- Two renders that end alike after so many stages. An end that has already come may not blame a
helper. -/
def EndAlike (r : Request) (n : Nat) (a b : Stage × Site) : Prop :=
  Unblamed a.1 → ∃ x, Clear x ∧
    (∀ m, n ≤ m → (runStages r m a.1 a.2).1 = .ended x) ∧
    ∀ m, n ≤ m → (runStages r m b.1 b.2).1 = .ended x

theorem EndAlike.mono {r : Request} {n k : Nat} {a b : Stage × Site} (h : EndAlike r n a b)
    (hnk : n ≤ k) : EndAlike r k a b := by
  intro hunblamed
  obtain ⟨x, hx, ha, hb⟩ := h hunblamed
  exact ⟨x, hx, fun m hm => ha m (Nat.le_trans hnk hm), fun m hm => hb m (Nat.le_trans hnk hm)⟩

theorem EndAlike.stopped (r : Request) (n : Nat) (e : Stop) (s t : Site) :
    EndAlike r n (.ended (.error e), s) (.ended (.error e), t) := by
  intro hunblamed
  refine ⟨.error e, ⟨hunblamed _ rfl, nofun⟩, ?_, ?_⟩
  · intro m _
    rw [runStages_ended]
  · intro m _
    rw [runStages_ended]

/-- Two early stages that lead to such renders. -/
theorem EndAlike.ofStep {r : Request} {n : Nat} {a b : Stage} {s t : Site}
    (h : EndAlike r n (a.step r s) (b.step r t)) (ha : a.IsEarly) (hb : b.IsEarly) :
    EndAlike r (n + 1) (a, s) (b, t) := by
  have hopen : ∀ {c : Stage}, c.IsEarly → c.result? = none := by
    intro c hc
    cases c with
    | ended result => exact hc.elim
    | _ => rfl
  intro _
  obtain ⟨x, hx, hruns, hruns'⟩ := h (step_unblamed r ha s)
  refine ⟨x, hx, ?_, ?_⟩
  · intro m hm
    obtain ⟨m, rfl⟩ : ∃ k, m = k + 1 := ⟨m - 1, by omega⟩
    rw [runStages_succ r m s (hopen ha)]
    exact hruns m (Nat.le_of_succ_le_succ hm)
  · intro m hm
    obtain ⟨m, rfl⟩ : ∃ k, m = k + 1 := ⟨m - 1, by omega⟩
    rw [runStages_succ r m t (hopen hb)]
    exact hruns' m (Nat.le_of_succ_le_succ hm)

namespace Fitting

variable {shape : Shape} {r : Request} {s : Site}

end Fitting

/-- A render of templates of a shape, on an engine whose deferred helpers answer in time. -/
structure Ordinary (shape : Shape) (deadline : Option Deadline) (r : Request) (s : Site) : Prop
    extends Fitting shape r s where
  timeout : deadlineOf (s.engine r.engine).timeout = .ok deadline
  id : IsRegistryId (s.activity.ids s.activity.registries.length)
  helpers : HelpersAnswer deadline s.activity.helpers (s.engine r.engine).globals

namespace Ordinary

variable {shape : Shape} {deadline : Option Deadline} {r : Request} {s : Site}

/-- What both sites of a render have in common. -/
abbrev Pair (shape : Shape) (deadline : Option Deadline) (r : Request) (s : Site) :
    Ledger → Site → Site → Prop :=
  Fitting.Pair shape r s ((s.engine r.engine).inlined s.activity.helpers.length).globals
    (OnSpot deadline s.activity.helpers (s.activity.ids s.activity.registries.length)
      s.activity.registries.length s.activity.registries.length)

theorem mirror (h : Ordinary shape deadline r s) :
    Mirror r s.files (s.engine r.engine).autoescape (s.optionsAt r.options)
      (FitsShape shape r.engine (s.engine r.engine).globals (s.optionsAt r.options))
      (Pair shape deadline r s) :=
  h.toFitting.mirror _ _

theorem engine_inlined (h : Ordinary shape deadline r s) :
    (s.inlined r.engine).engine r.engine =
      (s.engine r.engine).inlined s.activity.helpers.length :=
  Site.engine_setEngine_self _ _ _ h.engine

/-- Both sites when their registries are open. -/
theorem opened (h : Ordinary shape deadline r s) :
    Pair shape deadline r s ⟨[]⟩ s.opened (s.inlined r.engine).opened := by
  have hengine := h.engine_inlined
  have halike : ((s.inlined r.engine).engine r.engine).Alike (s.engine r.engine) := by
    rw [hengine]
    refine ⟨rfl, rfl, rfl, fun name => ?_⟩
    refine Engine.load_congr ?_ ?_ ?_ ?_ <;> rfl
  have hactivity : OnSpot deadline s.activity.helpers
      (s.activity.ids s.activity.registries.length) s.activity.registries.length
      s.activity.registries.length ⟨[]⟩ s.opened.activity (s.inlined r.engine).opened.activity :=
    { known := ⟨rfl, rfl⟩
      defers := defers_opened s
      nothing := congrArg Registry.pending (s.inlined r.engine).registry_opened
      answered := nofun }
  have hpair := h.toFitting.opened (t := s.inlined r.engine) rfl halike rfl rfl hactivity
  rwa [hengine] at hpair

/-- Once their pages run, both end alike. -/
theorem closes (h : Ordinary shape deadline r s) :
    Closes r (FitsShape shape r.engine (s.engine r.engine).globals (s.optionsAt r.options))
      (Pair shape deadline r s) s.activity.registries.length s.activity.registries.length
      (EndAlike r (slowest s.activity.helpers + 2)) := by
  refine ⟨fun e _ => .stopped r _ e _ _, ?_⟩
  intro w t u layout page hst hlayout hpage
  obtain ⟨v, seen, seen', hst', hend⟩ := pageText_corresponds
    (onSpot_counterparts h.helpers _ _ _) h.toFitting hpage hlayout hst
  rw [runPage_eq, after_bind_apply, after_bind_apply]
  revert hst' hend
  generalize pageText r s.activity.registries.length layout page t = x
  generalize pageText r s.activity.registries.length layout page u = y
  obtain ⟨ex, t'⟩ := x
  obtain ⟨ey, u'⟩ := y
  intro hst' hend
  dsimp only at hst' hend
  cases hend with
  | error e => exact .stopped r _ e _ _
  | @ok rendered html hshows =>
    intro _
    have htimeout : deadlineOf (t'.engine r.engine).timeout = .ok deadline := by
      rw [hst'.alike.1.timeout]
      exact h.timeout
    obtain ⟨huntainted, hruns⟩ := closePage_ends h.id htimeout hst'.activity hshows
    obtain ⟨log, hclose⟩ := closePage_nil r html hst'.activity.nothing
    refine ⟨.ok html, ⟨nofun, ?_⟩, hruns, ?_⟩
    · rintro _ ⟨⟩
      exact huntainted
    · intro m _
      dsimp only
      rw [hclose]
      show (runStages r m (.ended (.ok html)) _).1 = _
      rw [runStages_ended]

/-- Both end alike wherever they get before. -/
theorem closesLayout (h : Ordinary shape deadline r s) :
    ClosesLayout r s.files (s.optionsAt r.options)
      (FitsShape shape r.engine (s.engine r.engine).globals (s.optionsAt r.options))
      (Pair shape deadline r s) s.activity.registries.length s.activity.registries.length
      (EndAlike r (slowest s.activity.helpers + 4)) := by
  have hcloses := h.closes
  have hmirror := h.mirror
  have hpage : ∀ n, slowest s.activity.helpers + 3 ≤ n → ClosesPage r
      (FitsShape shape r.engine (s.engine r.engine).globals (s.optionsAt r.options))
      (Pair shape deadline r s) s.activity.registries.length s.activity.registries.length
      (EndAlike r n) := by
    intro n hn
    refine ⟨⟨fun e _ => .stopped r _ e _ _, ?_⟩, ?_⟩
    · intro w t u layout page hst hlayout hkept
      exact (hcloses.ran hst hlayout hkept).mono (by omega)
    · intro w t u layout hst hlayout
      have hstep := hmirror.readingPage_post hcloses hlayout w t u hst
      exact (EndAlike.ofStep hstep trivial trivial).mono hn
  refine ⟨hpage _ (by omega), ?_⟩
  intro w t u name path hst hpath
  have hstep := hmirror.readingLayout_post (hpage _ (Nat.le_refl _)) hpath w t u hst
  exact EndAlike.ofStep hstep trivial trivial

end Ordinary

end DeferredViews.View
