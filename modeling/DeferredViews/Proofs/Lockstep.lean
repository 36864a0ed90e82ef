import DeferredViews.Fault
import Mathlib.Order.Basic

/-!
# Two computations in step

Two computations over different states go in step if, from states that are related, they both end
with related values, or both with the same interrupt, in states that are related again. What the
relations say may depend on a world that grows while the computations go on, such as the calls that
were put off so far.
-/
namespace DeferredViews

variable {W ε σ τ α β γ δ : Type} [Preorder W]

/-- Two ends of a kind: related values, or the same interrupt. -/
inductive SameEnd (R : α → β → Prop) : Except ε α → Except ε β → Prop
  | ok {a : α} {b : β} (h : R a b) : SameEnd R (.ok a) (.ok b)
  | error (e : ε) : SameEnd R (.error e) (.error e)

/-- From related states of a world, two computations end alike in related states of a later world. -/
def Lockstep (I : W → σ → τ → Prop) (R : W → α → β → Prop) (w : W)
    (x : ExceptT ε (StateM σ) α) (y : ExceptT ε (StateM τ) β) : Prop :=
  ∀ s t, I w s t → ∃ v, w ≤ v ∧ I v (x s).2 (y t).2 ∧ SameEnd (R v) (x s).1 (y t).1

/-- To go on is to go on from where the first part ended, unless it was interrupted. -/
theorem bind_apply (x : ExceptT ε (StateM σ) α) (f : α → ExceptT ε (StateM σ) γ) (s : σ) :
    (x >>= f) s =
      match (x s).1 with
      | .ok a => f a (x s).2
      | .error e => (.error e, (x s).2) := by
  show (ExceptT.bindCont f (x s).1) (x s).2 = _
  cases (x s).1 <;> rfl

theorem tryCatch_apply (x : ExceptT ε (StateM σ) α) (f : ε → ExceptT ε (StateM σ) α) (s : σ) :
    (tryCatch x f) s =
      match (x s).1 with
      | .ok a => (.ok a, (x s).2)
      | .error e => f e (x s).2 := by
  show (match (x s).1 with
    | .ok a => (Pure.pure (.ok a) : StateM σ (Except ε α))
    | .error e => f e) (x s).2 = _
  cases (x s).1 <;> rfl

theorem pure_apply (a : α) (s : σ) : (Pure.pure a : ExceptT ε (StateM σ) α) s = (.ok a, s) := rfl

theorem get_apply (s : σ) : (get : ExceptT ε (StateM σ) σ) s = (.ok s, s) := rfl

theorem set_apply (s t : σ) : (set t : ExceptT ε (StateM σ) PUnit) s = (.ok ⟨⟩, t) := rfl

namespace Lockstep

variable {I : W → σ → τ → Prop} {R : W → α → β → Prop} {Q : W → γ → δ → Prop} {w : W}

theorem pure {a : α} {b : β} (h : R w a b) :
    Lockstep (ε := ε) I R w (Pure.pure a) (Pure.pure b) :=
  fun _ _ hst => ⟨w, le_refl w, hst, .ok h⟩

theorem throw (e : ε) :
    Lockstep I R w (MonadExcept.throw e : ExceptT ε (StateM σ) α)
      (MonadExcept.throw e : ExceptT ε (StateM τ) β) :=
  fun _ _ hst => ⟨w, le_refl w, hst, .error e⟩

theorem bind {x : ExceptT ε (StateM σ) α} {y : ExceptT ε (StateM τ) β}
    {f : α → ExceptT ε (StateM σ) γ} {g : β → ExceptT ε (StateM τ) δ} (h : Lockstep I R w x y)
    (hnext : ∀ v a b, w ≤ v → R v a b → Lockstep I Q v (f a) (g b)) :
    Lockstep I Q w (x >>= f) (y >>= g) := by
  intro s t hst
  obtain ⟨v, hwv, hst', hend⟩ := h s t hst
  rw [bind_apply, bind_apply]
  revert hst' hend
  generalize x s = rx
  generalize y t = ry
  obtain ⟨ex, s'⟩ := rx
  obtain ⟨ey, t'⟩ := ry
  intro hst' hend
  dsimp only at hend
  cases hend with
  | @ok a b hab =>
    obtain ⟨u, hvu, hst'', hend'⟩ := hnext v a b hwv hab s' t' hst'
    exact ⟨u, le_trans hwv hvu, hst'', hend'⟩
  | error e => exact ⟨v, hwv, hst', .error e⟩

theorem map {x : ExceptT ε (StateM σ) α} {y : ExceptT ε (StateM τ) β} {f : α → γ} {g : β → δ}
    (h : Lockstep I R w x y) (hnext : ∀ v a b, w ≤ v → R v a b → Q v (f a) (g b)) :
    Lockstep I Q w (f <$> x) (g <$> y) :=
  h.bind fun v a b hwv hab => .pure (hnext v a b hwv hab)

/-- Weaken what is known of the values. -/
theorem weaken {P : W → α → β → Prop} {x : ExceptT ε (StateM σ) α} {y : ExceptT ε (StateM τ) β}
    (h : Lockstep I R w x y) (hweak : ∀ v a b, w ≤ v → R v a b → P v a b) :
    Lockstep I P w x y := by
  intro s t hst
  obtain ⟨v, hwv, hst', hend⟩ := h s t hst
  refine ⟨v, hwv, hst', ?_⟩
  generalize (x s).1 = ex at hend ⊢
  generalize (y t).1 = ey at hend ⊢
  cases hend with
  | ok hab => exact .ok (hweak v _ _ hwv hab)
  | error e => exact .error e

theorem tryCatch {x : ExceptT ε (StateM σ) α} {y : ExceptT ε (StateM τ) β}
    {f : ε → ExceptT ε (StateM σ) α} {g : ε → ExceptT ε (StateM τ) β} (h : Lockstep I R w x y)
    (hcatch : ∀ v e, w ≤ v → Lockstep I R v (f e) (g e)) :
    Lockstep I R w (MonadExcept.tryCatch x f) (MonadExcept.tryCatch y g) := by
  intro s t hst
  obtain ⟨v, hwv, hst', hend⟩ := h s t hst
  rw [tryCatch_apply, tryCatch_apply]
  revert hst' hend
  generalize x s = rx
  generalize y t = ry
  obtain ⟨ex, s'⟩ := rx
  obtain ⟨ey, t'⟩ := ry
  intro hst' hend
  dsimp only at hend
  cases hend with
  | ok hab => exact ⟨v, hwv, hst', .ok hab⟩
  | error e =>
    obtain ⟨u, hvu, hst'', hend'⟩ := hcatch v e hwv s' t' hst'
    exact ⟨u, le_trans hwv hvu, hst'', hend'⟩

/-- A step that reads the states. -/
theorem get_bind {f : σ → ExceptT ε (StateM σ) α} {g : τ → ExceptT ε (StateM τ) β}
    (h : ∀ s t, I w s t → Lockstep I R w (f s) (g t)) :
    Lockstep I R w (MonadState.get >>= f) (MonadState.get >>= g) :=
  fun s t hst => h s t hst s t hst

/-- A step that changes the states. -/
theorem modify_both {f : σ → σ} {g : τ → τ} (h : ∀ s t, I w s t → I w (f s) (g t)) :
    Lockstep I (fun _ _ _ => True) w (modify f : ExceptT ε (StateM σ) PUnit)
      (modify g : ExceptT ε (StateM τ) PUnit) :=
  fun s t hst => ⟨w, le_refl w, h s t hst, .ok trivial⟩

theorem set_both {s : σ} {t : τ} (h : I w s t) :
    Lockstep I (fun _ _ _ => True) w (set s : ExceptT ε (StateM σ) PUnit)
      (set t : ExceptT ε (StateM τ) PUnit) :=
  fun _ _ _ => ⟨w, le_refl w, h, .ok trivial⟩

end Lockstep
end DeferredViews
