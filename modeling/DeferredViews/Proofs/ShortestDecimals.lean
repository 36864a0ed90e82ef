import DeferredViews.Proofs.Nearest

/-!
# The written decimal of a double

The decimal that a double is written with lies in its basin. There always is one: with seventeen
digits the decimals are closer to each other than the basin is wide.
-/
namespace DeferredViews.Number

def Decimal.value (d : Decimal) : ℚ := d.coefficient * 10 ^ d.exponent

/-- A power with a natural exponent over one with the opposite exponent. -/
theorem toNat_zpow {a : ℚ} (ha : a ≠ 0) (k : ℤ) : a ^ k.toNat = a ^ k * a ^ (-k).toNat := by
  rw [← zpow_natCast, ← zpow_natCast, ← zpow_add₀ ha]
  congr 1
  omega

namespace Basin

theorem factors_spec (b : Basin) (k : ℤ) :
    0 < (b.factors k).1 ∧ 0 < (b.factors k).2 ∧
      ((b.factors k).1 : ℚ) * 2 ^ b.unit = (b.factors k).2 * 10 ^ k := by
  rw [factors]
  simp only [Nat.pow_eq]
  refine ⟨by positivity, by positivity, ?_⟩
  push_cast
  rw [toNat_zpow (by norm_num) k, toNat_zpow (by norm_num) b.unit]
  ring

/-- The factors compare a decimal with the units of a basin. -/
theorem factors_compare (b : Basin) (k : ℤ) (n c : ℕ) :
    (n * (b.factors k).2 ≤ c * (b.factors k).1 ↔ (n : ℚ) * 2 ^ b.unit ≤ c * 10 ^ k) ∧
      (c * (b.factors k).1 ≤ n * (b.factors k).2 ↔ (c : ℚ) * 10 ^ k ≤ n * 2 ^ b.unit) := by
  obtain ⟨-, hg, hfactors⟩ := b.factors_spec k
  have hg' : (0 : ℚ) < (b.factors k).2 := by exact_mod_cast hg
  have hp := two_zpow_pos b.unit
  have hscaled : (c : ℚ) * 10 ^ k * (b.factors k).2 = c * (b.factors k).1 * 2 ^ b.unit := by
    rw [mul_assoc, mul_assoc, hfactors, mul_comm ((10 : ℚ) ^ k)]
  constructor
  · rw [← mul_le_mul_iff_of_pos_right hg', hscaled, mul_right_comm, mul_le_mul_iff_of_pos_right hp]
    exact_mod_cast Iff.rfl
  · rw [← mul_le_mul_iff_of_pos_right hg', hscaled, mul_right_comm (n : ℚ),
      mul_le_mul_iff_of_pos_right hp]
    exact_mod_cast Iff.rfl

theorem holds_iff (b : Basin) (k : ℤ) (c : ℕ) : b.holds k c = true ↔ b.Contains (c * 10 ^ k) := by
  obtain ⟨hlow, hlow'⟩ := b.factors_compare k b.low c
  obtain ⟨hhigh, hhigh'⟩ := b.factors_compare k b.high c
  rw [holds, Contains]
  dsimp only
  split
  · rw [Bool.and_eq_true, decide_eq_true_iff, decide_eq_true_iff, hlow, hhigh']
  · rw [Bool.and_eq_true, decide_eq_true_iff, decide_eq_true_iff, ← not_le, ← not_le, hlow', hhigh,
      not_le, not_le]

theorem contains_of_between {b : Basin} {v : ℚ} (hlow : (b.low : ℚ) * 2 ^ b.unit < v)
    (hhigh : v < b.high * 2 ^ b.unit) : b.Contains v := by
  rw [Contains]
  split
  · exact ⟨hlow.le, hhigh.le⟩
  · exact ⟨hlow, hhigh⟩

theorem contains_of_at? {b : Basin} {k : ℤ} {c : ℕ} (h : b.at? k = some c) :
    b.Contains (c * 10 ^ k) := by
  rw [← holds_iff]
  rw [at?] at h
  dsimp only at h
  split at h
  · split at h
    · cases h
      assumption
    split at h
    · cases h
      assumption
    split at h <;> cases h <;> assumption
  · cases h
    assumption
  · cases h
    assumption
  · cases h

/-- Where no decimal is found, neither of those next to the centre lies in the basin. -/
theorem around_of_at?_eq_none {b : Basin} {k : ℤ} (h : b.at? k = none) :
    ∃ c : ℕ, (c : ℚ) * 10 ^ k ≤ b.centre * 2 ^ b.unit ∧
      (b.centre : ℚ) * 2 ^ b.unit < (c + 1) * 10 ^ k ∧
      ¬ b.Contains (c * 10 ^ k) ∧ ¬ b.Contains ((c + 1) * 10 ^ k) := by
  obtain ⟨hf, -, -⟩ := b.factors_spec k
  have hnone : ¬ b.holds k (b.centre * (b.factors k).2 / (b.factors k).1) = true ∧
      ¬ b.holds k (b.centre * (b.factors k).2 / (b.factors k).1 + 1) = true := by
    rw [at?] at h
    dsimp only at h
    split at h
    · split at h
      · cases h
      split at h
      · cases h
      split at h <;> cases h
    · cases h
    · cases h
    · next hlow hhigh => simp [hlow, hhigh]
  have hbelow := Nat.div_mul_le_self (b.centre * (b.factors k).2) (b.factors k).1
  have habove := (Nat.div_lt_iff_lt_mul hf).mp
    (Nat.lt_succ_self (b.centre * (b.factors k).2 / (b.factors k).1))
  generalize b.centre * (b.factors k).2 / (b.factors k).1 = c at *
  rw [holds_iff, holds_iff] at hnone
  push_cast at hnone
  refine ⟨c, (b.factors_compare k b.centre c).2.mp hbelow, ?_, hnone⟩
  have hlt := mt (b.factors_compare k b.centre (c + 1)).2.mpr (not_le.mpr habove)
  push_cast at hlt
  exact not_le.mp hlt

end Basin

/-! ## Places of digits -/

theorem leadingPlace_spec {fuel num den : ℕ} (h : den ≤ num * 10 ^ fuel) :
    den ≤ num * 10 ^ leadingPlace fuel num den := by
  induction fuel generalizing num with
  | zero => simpa [leadingPlace] using h
  | succ fuel ih =>
    rw [leadingPlace]
    split
    · simpa
    · have hnext : den ≤ num * 10 * 10 ^ leadingPlace fuel (num * 10) den := by
        refine ih ?_
        rw [mul_assoc, ← pow_succ']
        exact h
      rw [add_comm, pow_succ', ← mul_assoc]
      exact hnext

theorem ten_pow_firstPlace_le {m : ℕ} {e : ℤ} (h : IsScaled m e) (hm : 0 < m) :
    (10 : ℚ) ^ firstPlace m e ≤ m * 2 ^ e := by
  have hden : (0 : ℚ) < 2 ^ (-e).toNat := by positivity
  have hratio : (m : ℚ) * 2 ^ e = m * 2 ^ e.toNat / 2 ^ (-e).toNat := by
    rw [toNat_zpow (by norm_num) e]
    field_simp
  rw [hratio, firstPlace, le_div_iff₀ hden]
  simp only [Nat.pow_eq]
  have hnum : 0 < m * 2 ^ e.toNat := by positivity
  split
  · next hle =>
    have hquotient : 0 < m * 2 ^ e.toNat / 2 ^ (-e).toNat :=
      Nat.div_pos hle (by positivity)
    have hdigits := (Double.bounds_of_digits hquotient 0).1
    rw [add_zero, zpow_zero, mul_one] at hdigits
    have hfloor : ((m * 2 ^ e.toNat / 2 ^ (-e).toNat : ℕ) : ℚ) * 2 ^ (-e).toNat ≤
        m * 2 ^ e.toNat := by
      exact_mod_cast Nat.div_mul_le_self (m * 2 ^ e.toNat) (2 ^ (-e).toNat)
    nlinarith
  · next hlt =>
    have henough : 2 ^ (-e).toNat ≤ m * 2 ^ e.toNat * 10 ^ 400 := calc
      2 ^ (-e).toNat ≤ 2 ^ 1075 := Nat.pow_le_pow_right (by norm_num) (by have := h.least; omega)
      _ ≤ 10 ^ 331 := le_of_lt Double.two_pow_lt_ten_pow.2
      _ ≤ 10 ^ 400 := pow_le_pow_right₀ (by norm_num) (by norm_num)
      _ ≤ m * 2 ^ e.toNat * 10 ^ 400 := Nat.le_mul_of_pos_left _ hnum
    have hplace := leadingPlace_spec henough
    generalize leadingPlace 400 (m * 2 ^ e.toNat) (2 ^ (-e).toNat) = place at hplace
    rw [zpow_neg, zpow_natCast, inv_mul_le_iff₀ (by positivity)]
    rw [mul_comm] at hplace
    exact_mod_cast hplace

theorem Decimal.value_strip (fuel : ℕ) (d : Decimal) : (d.strip fuel).value = d.value := by
  induction fuel generalizing d with
  | zero => rfl
  | succ fuel ih =>
    rw [strip]
    split
    · next h =>
      rw [ih, value, value, zpow_add₀ (by norm_num), zpow_one]
      have hten : d.coefficient = 10 * (d.coefficient / 10) := by omega
      have hcast : (d.coefficient : ℚ) = 10 * ((d.coefficient / 10 : ℕ) : ℚ) := by
        exact_mod_cast hten
      rw [hcast]
      push_cast
      ring
    · rfl

/-- The decimals with seventeen digits are closer to each other than a basin is wide. -/
theorem at?_seventeenth {m : ℕ} {e : ℤ} (h : IsScaled m e) (hm : 0 < m) :
    (Basin.of m e).at? (firstPlace m e - 16) ≠ none := by
  intro hnone
  have hp := two_zpow_pos e
  have hfirst := ten_pow_firstPlace_le h hm
  have hstep : (10 : ℚ) ^ (firstPlace m e - 16) = 10 ^ firstPlace m e / 10 ^ 16 := by
    rw [zpow_sub₀ (by norm_num)]
    norm_num
  obtain ⟨c, hbelow, habove, hnot, hnot'⟩ := Basin.around_of_at?_eq_none hnone
  rw [Basin.centre_of] at hbelow habove
  have hunder : (c : ℚ) * 10 ^ (firstPlace m e - 16) ≤
      (m - if m = 2 ^ 52 ∧ -1074 < e then 1 / 4 else 1 / 2) * 2 ^ e := by
    by_contra hlt
    refine hnot (Basin.contains_of_between ?_ ?_)
    · rw [Basin.low_of e hm]
      exact not_le.mp hlt
    · rw [Basin.high_of]
      linarith
  have hover : ((m : ℚ) + 1 / 2) * 2 ^ e ≤ (c + 1) * 10 ^ (firstPlace m e - 16) := by
    by_contra hlt
    refine hnot' (Basin.contains_of_between ?_ ?_)
    · rw [Basin.low_of e hm]
      split <;> linarith
    · rw [Basin.high_of]
      exact not_le.mp hlt
  rw [hstep] at hunder hover
  split at hunder
  · next hedge =>
    have hm' : (m : ℚ) = 2 ^ 52 := by exact_mod_cast hedge.1
    rw [hm'] at hunder hover hfirst
    linarith
  · have hmax : (m : ℚ) + 1 ≤ 2 ^ 53 := by exact_mod_cast h.lt
    nlinarith

/-- The decimal that is written for a double lies in its basin. -/
theorem shortest_contains {m : ℕ} {e : ℤ} (h : IsScaled m e) (hm : 0 < m) :
    (Basin.of m e).Contains (shortest m e).value := by
  rw [shortest, if_neg hm.ne']
  dsimp only
  split
  · next d hd =>
    obtain ⟨n, -, hn⟩ := List.exists_of_findSome?_eq_some hd
    obtain ⟨c, hc, rfl⟩ := Option.map_eq_some_iff.mp hn
    rw [Decimal.value_strip]
    exact Basin.contains_of_at? hc
  · next hnone =>
    have hlast := List.findSome?_eq_none_iff.mp hnone 16 (List.mem_range.mpr (by norm_num))
    exact absurd (Option.map_eq_none_iff.mp hlast) (at?_seventeenth h hm)

end DeferredViews.Number
