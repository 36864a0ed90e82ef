import DeferredViews.Number.Shortest
import Mathlib.Algebra.Order.Floor.Semifield
import Mathlib.Data.Int.Log
import Mathlib.Data.Rat.Floor
import Mathlib.Tactic.FieldSimp
import Mathlib.Tactic.Linarith
import Mathlib.Tactic.NormNum
import Mathlib.Tactic.Positivity
import Mathlib.Tactic.Ring

/-!
# The nearest double

Each finite double has a basin, the fractions that are nearer to it than to any other double, with
the ends if its mantissa is even. A fraction in the basin of a double is rounded to that double.
-/
namespace DeferredViews.Number

/-! ## Doubles by mantissa and power -/

/-- A mantissa and a power of two as finite doubles have them: only at the least power may the
mantissa be short. -/
structure IsScaled (m : ℕ) (e : ℤ) : Prop where
  lt : m < 2 ^ 53
  least : -1074 ≤ e
  most : e ≤ 971
  full : e ≠ -1074 → 2 ^ 52 ≤ m

namespace Double

/-- The double with the given sign, mantissa and power. -/
def ofParts (negative : Bool) (m : ℕ) (e : ℤ) : Double :=
  if m < 2 ^ 52 then withSign negative m
  else withSign negative ((e + 1075).toNat * 2 ^ 52 + (m - 2 ^ 52))

theorem eq_withSign (x : Double) : x = withSign x.isNegative (x.bits.toNat % 2 ^ 63) := by
  obtain ⟨bits⟩ := x
  have hbits : bits.toNat < 2 ^ 64 := bits.toNat_lt
  have hparts : (if 2 ^ 63 ≤ bits.toNat then 2 ^ 63 + bits.toNat % 2 ^ 63
      else bits.toNat % 2 ^ 63) = bits.toNat := by
    split <;> omega
  simp only [withSign, isNegative, Nat.pow_eq, decide_eq_true_eq, hparts, UInt64.ofNat_toNat]

/-- A finite double is made of the parts of its shape. -/
theorem of_shape {x : Double} {negative : Bool} {m : ℕ} {e : ℤ}
    (h : x.shape = .finite negative m e) : IsScaled m e ∧ x = ofParts negative m e := by
  have hsign := eq_withSign x
  rw [shape] at h
  simp only [Nat.pow_eq] at h
  generalize x.bits.toNat = n at h hsign
  split at h
  · split at h <;> cases h
  · split at h
    · next hpower =>
      obtain ⟨rfl, rfl, rfl⟩ := Shape.finite.inj h
      refine ⟨⟨by omega, le_rfl, by omega, fun hne => absurd rfl hne⟩, ?_⟩
      have hrest : n % 2 ^ 63 = n % 2 ^ 52 := by omega
      rw [ofParts, if_pos (by omega), ← hrest]
      exact hsign
    · next hspecial hpower =>
      obtain ⟨rfl, rfl, rfl⟩ := Shape.finite.inj h
      refine ⟨⟨by omega, by omega, by omega, fun _ => by omega⟩, ?_⟩
      have hrest : n % 2 ^ 63 =
          (((n / 2 ^ 52 % 2 ^ 11 : ℕ) : ℤ) - 1075 + 1075).toNat * 2 ^ 52 +
            (2 ^ 52 + n % 2 ^ 52 - 2 ^ 52) := by
        omega
      rw [ofParts, if_neg (by omega), ← hrest]
      exact hsign

end Double

/-! ## Basins -/

/-- A fraction lies in a basin. -/
def Basin.Contains (b : Basin) (v : ℚ) : Prop :=
  if b.closed then (b.low : ℚ) * 2 ^ b.unit ≤ v ∧ v ≤ b.high * 2 ^ b.unit
  else (b.low : ℚ) * 2 ^ b.unit < v ∧ v < b.high * 2 ^ b.unit

section Bounds

variable {m : ℕ} {e : ℤ} {v : ℚ}

theorem two_zpow_pos (e : ℤ) : (0 : ℚ) < 2 ^ e := zpow_pos (by norm_num) e

theorem ten_zpow_pos (k : ℤ) : (0 : ℚ) < 10 ^ k := zpow_pos (by norm_num) k

theorem zpow_unit (e : ℤ) : (2 : ℚ) ^ (e - 2) = 2 ^ e / 4 := by
  rw [zpow_sub₀ (by norm_num)]
  norm_num

theorem Basin.low_of (e : ℤ) (hm : 0 < m) :
    ((Basin.of m e).low : ℚ) * 2 ^ (Basin.of m e).unit =
      (m - if m = 2 ^ 52 ∧ -1074 < e then 1 / 4 else 1 / 2) * 2 ^ e := by
  have hle : (if m = Nat.pow 2 52 ∧ -1074 < e then 1 else 2) ≤ 4 * m := by
    split <;> omega
  simp only [of, zpow_unit]
  rw [Nat.cast_sub hle]
  simp only [Nat.pow_eq]
  push_cast
  split <;> ring

theorem Basin.centre_of (m : ℕ) (e : ℤ) :
    ((Basin.of m e).centre : ℚ) * 2 ^ (Basin.of m e).unit = m * 2 ^ e := by
  simp only [of, zpow_unit]
  push_cast
  ring

theorem Basin.high_of (m : ℕ) (e : ℤ) :
    ((Basin.of m e).high : ℚ) * 2 ^ (Basin.of m e).unit = (m + 1 / 2) * 2 ^ e := by
  simp only [of, zpow_unit]
  push_cast
  ring

/-- A basin reaches half a unit of the mantissa to each side; only below a power of two it reaches
less far. -/
theorem Basin.Contains.bounds (h : (Basin.of m e).Contains v) (hm : 0 < m) :
    ((m : ℚ) - 1 / 2) * 2 ^ e ≤ v ∧ v ≤ ((m : ℚ) + 1 / 2) * 2 ^ e ∧
      (m % 2 ≠ 0 → ((m : ℚ) - 1 / 2) * 2 ^ e < v ∧ v < ((m : ℚ) + 1 / 2) * 2 ^ e) ∧
      (m = 2 ^ 52 → -1074 < e → ((m : ℚ) - 1 / 4) * 2 ^ e ≤ v) := by
  have hp := two_zpow_pos e
  rw [Contains, low_of e hm, high_of] at h
  by_cases hedge : m = 2 ^ 52 ∧ -1074 < e
  · rw [if_pos hedge] at h
    refine ⟨?_, ?_, fun hodd => ?_, fun _ _ => ?_⟩
    · split at h <;> linarith
    · split at h <;> linarith
    · rw [hedge.1] at hodd
      norm_num at hodd
    · split at h <;> linarith
  · rw [if_neg hedge] at h
    refine ⟨?_, ?_, fun hodd => ?_, fun hm he => absurd ⟨hm, he⟩ hedge⟩
    · split at h <;> linarith
    · split at h <;> linarith
    · rw [if_neg (by simpa [of] using hodd)] at h
      constructor <;> linarith

end Bounds

/-! ## Rounding -/

namespace Double

/-- The quotient and the one above it are the only integers within a half. -/
theorem eq_div_of_near {n d q : ℕ} (hd : 0 < d) (hlow : 2 * (q * d) ≤ 2 * n + d)
    (hhigh : 2 * n ≤ 2 * (q * d) + d) : q = n / d ∨ q = n / d + 1 := by
  have hn : n = n / d * d + n % d := (Nat.div_add_mod' n d).symm
  have hr : n % d < d := Nat.mod_lt n hd
  generalize n / d = k at *
  generalize n % d = r at *
  have hle : k ≤ q := by
    by_contra hlt
    have : (q + 1) * d ≤ k * d := Nat.mul_le_mul_right d (by omega)
    rw [Nat.add_mul, Nat.one_mul] at this
    omega
  have hge : q ≤ k + 1 := by
    by_contra hlt
    have : (k + 2) * d ≤ q * d := Nat.mul_le_mul_right d (by omega)
    rw [Nat.add_mul] at this
    omega
  omega

theorem roundDiv_of_near {n d q : ℕ} (hd : 0 < d) (hlow : 2 * (q * d) ≤ 2 * n + d)
    (hhigh : 2 * n ≤ 2 * (q * d) + d)
    (hodd : q % 2 ≠ 0 → 2 * (q * d) < 2 * n + d ∧ 2 * n < 2 * (q * d) + d) :
    roundDiv n d = q := by
  have hn : n = n / d * d + n % d := (Nat.div_add_mod' n d).symm
  have hnear := eq_div_of_near hd hlow hhigh
  rw [roundDiv]
  generalize n / d = k at *
  generalize n % d = r at *
  rcases hnear with rfl | rfl
  · split
    · rfl
    split
    · omega
    split
    · rfl
    · next hk =>
      have := hodd hk
      omega
  · rw [Nat.add_mul, Nat.one_mul] at hlow hhigh hodd
    split
    · omega
    split
    · rfl
    split
    · have := hodd (by omega)
      omega
    · rfl

/-- The integer nearest to a quotient is the one at most a half away, the even one of two. -/
theorem roundDiv_eq {n d q : ℕ} (hd : 0 < d) (hlow : (q : ℚ) - 1 / 2 ≤ n / d)
    (hhigh : (n : ℚ) / d ≤ q + 1 / 2)
    (hodd : q % 2 ≠ 0 → (q : ℚ) - 1 / 2 < n / d ∧ (n : ℚ) / d < q + 1 / 2) : roundDiv n d = q := by
  have hd' : (0 : ℚ) < d := by exact_mod_cast hd
  rw [le_div_iff₀ hd'] at hlow
  rw [div_le_iff₀ hd'] at hhigh
  rw [lt_div_iff₀ hd', div_lt_iff₀ hd'] at hodd
  apply roundDiv_of_near hd
  · have : (2 * (q * d) : ℚ) ≤ 2 * n + d := by linarith
    exact_mod_cast this
  · have : (2 * n : ℚ) ≤ 2 * (q * d) + d := by linarith
    exact_mod_cast this
  · intro h
    obtain ⟨hl, hh⟩ := hodd h
    constructor
    · have : (2 * (q * d) : ℚ) < 2 * n + d := by linarith
      exact_mod_cast this
    · have : (2 * n : ℚ) < 2 * (q * d) + d := by linarith
      exact_mod_cast this

theorem scaled_spec (num : ℕ) {den : ℕ} (hden : 0 < den) (e : ℤ) :
    0 < (scaled num den e).2 ∧
      ((scaled num den e).1 : ℚ) / (scaled num den e).2 = num / den / 2 ^ e := by
  rw [scaled]
  simp only [Nat.pow_eq]
  split
  · next he =>
    obtain ⟨k, rfl⟩ := Int.eq_ofNat_of_zero_le he
    refine ⟨by positivity, ?_⟩
    rw [Int.toNat_natCast, zpow_natCast]
    push_cast
    rw [div_div]
  · next he =>
    obtain ⟨k, rfl⟩ : ∃ k : ℕ, e = -k := ⟨(-e).toNat, by omega⟩
    refine ⟨hden, ?_⟩
    rw [neg_neg, Int.toNat_natCast, zpow_neg, zpow_natCast]
    push_cast
    rw [div_inv_eq_mul]
    ring

/-- The power of two of a fraction, from those of its parts. -/
theorem log_ratio {num den : ℕ} (hnum : 0 < num) (hden : 0 < den) :
    (2 : ℚ) ^ ((num.log2 : ℤ) - den.log2 - 1) ≤ (num : ℚ) / den ∧
      (num : ℚ) / den < 2 ^ ((num.log2 : ℤ) - den.log2 + 1) := by
  have hden' : (0 : ℚ) < den := by exact_mod_cast hden
  have hlow : (2 : ℚ) ^ num.log2 ≤ num := by exact_mod_cast Nat.log2_self_le hnum.ne'
  have hhigh : (num : ℚ) < 2 ^ (num.log2 + 1) := by exact_mod_cast Nat.lt_log2_self
  have hlow' : (2 : ℚ) ^ den.log2 ≤ den := by exact_mod_cast Nat.log2_self_le hden.ne'
  have hhigh' : (den : ℚ) < 2 ^ (den.log2 + 1) := by exact_mod_cast Nat.lt_log2_self
  constructor
  · have hsplit : (2 : ℚ) ^ ((num.log2 : ℤ) - den.log2 - 1) =
        2 ^ num.log2 / 2 ^ (den.log2 + 1) := by
      rw [sub_sub, zpow_sub₀ (by norm_num), zpow_natCast]
      norm_cast
    rw [hsplit, div_le_div_iff₀ (by positivity) hden']
    gcongr
  · have hsplit : (2 : ℚ) ^ ((num.log2 : ℤ) - den.log2 + 1) =
        2 ^ (num.log2 + 1) / 2 ^ den.log2 := by
      rw [sub_add_eq_add_sub, zpow_sub₀ (by norm_num), zpow_natCast]
      norm_cast
    rw [hsplit, div_lt_div_iff₀ hden' (by positivity)]
    calc (num : ℚ) * 2 ^ den.log2 ≤ num * den := by gcongr
      _ < 2 ^ (num.log2 + 1) * den := by gcongr

theorem mantissaPower_eq {num den : ℕ} (hnum : 0 < num) (hden : 0 < den) :
    mantissaPower num den = max (-1074) (Int.log 2 ((num : ℚ) / den) - 52) := by
  have hv : (0 : ℚ) < (num : ℚ) / den := by positivity
  obtain ⟨hlow, hhigh⟩ := log_ratio hnum hden
  have hleast : (num.log2 : ℤ) - den.log2 - 1 ≤ Int.log 2 ((num : ℚ) / den) :=
    (Int.zpow_le_iff_le_log one_lt_two hv).mp (by exact_mod_cast hlow)
  have hmost : Int.log 2 ((num : ℚ) / den) < (num.log2 : ℤ) - den.log2 + 1 :=
    (Int.lt_zpow_iff_log_lt one_lt_two hv).mp (by exact_mod_cast hhigh)
  rw [mantissaPower]
  obtain ⟨hd, hscaled⟩ := scaled_spec num hden ((num.log2 : ℤ) - den.log2 - 53)
  generalize scaled num den ((num.log2 : ℤ) - den.log2 - 53) = fraction at hd hscaled
  obtain ⟨n, d⟩ := fraction
  dsimp only at hd hscaled ⊢
  have hd' : (0 : ℚ) < d := by exact_mod_cast hd
  have hpower := two_zpow_pos ((num.log2 : ℤ) - den.log2 - 53)
  have htest : Nat.pow 2 53 * d ≤ n ↔ (num.log2 : ℤ) - den.log2 ≤ Int.log 2 ((num : ℚ) / den) := by
    have hcast : Nat.pow 2 53 * d ≤ n ↔ (2 : ℚ) ^ 53 ≤ n / d := by
      rw [le_div_iff₀ hd', Nat.pow_eq]
      exact_mod_cast Iff.rfl
    rw [hcast, hscaled, le_div_iff₀ hpower, ← zpow_natCast, ← zpow_add₀ (by norm_num),
      ← Int.zpow_le_iff_le_log one_lt_two hv]
    push_cast
    rw [add_sub_cancel]
  split
  · next h =>
    have := htest.mp h
    omega
  · next h =>
    have := mt htest.mpr h
    omega

/-! ## A fraction in a basin -/

variable {m : ℕ} {e : ℤ} {num den : ℕ}

theorem log_lt_of_contains (h : IsScaled m e) (hm : 0 < m) {v : ℚ} (hpos : 0 < v)
    (hv : (Basin.of m e).Contains v) : Int.log 2 v < e + 53 := by
  have hp := two_zpow_pos e
  have hhigh := (hv.bounds hm).2.1
  have hlt : v < 2 ^ (e + 53) := by
    have hmax : (m : ℚ) + 1 ≤ 2 ^ 53 := by exact_mod_cast h.lt
    rw [zpow_add₀ (by norm_num)]
    norm_num
    nlinarith
  exact (Int.lt_zpow_iff_log_lt one_lt_two hpos).mp (by exact_mod_cast hlt)

/-- Only the mantissa of a power of two is near to what lies below its binade. -/
theorem log_of_contains_below (hm : 2 ^ 52 ≤ m) (hleast : -1074 < e) {v : ℚ} (hpos : 0 < v)
    (hv : (Basin.of m e).Contains v) (hbelow : v < 2 ^ 52 * 2 ^ e) :
    m = 2 ^ 52 ∧ Int.log 2 v = e + 51 := by
  have hp := two_zpow_pos e
  obtain ⟨hlow, -, -, hedge⟩ := hv.bounds (by omega)
  have hm' : m = 2 ^ 52 := by
    by_contra hne
    have hmore : (2 : ℚ) ^ 52 + 1 ≤ m := by exact_mod_cast (by omega : 2 ^ 52 + 1 ≤ m)
    nlinarith
  have hnear := hedge hm' hleast
  have hfull : (2 : ℚ) ^ 52 ≤ m := by exact_mod_cast hm
  have hmore : e + 51 ≤ Int.log 2 v := by
    have hpower : (2 : ℚ) ^ (e + 51) ≤ v := by
      rw [zpow_add₀ (by norm_num)]
      norm_num
      nlinarith
    exact (Int.zpow_le_iff_le_log one_lt_two hpos).mp (by exact_mod_cast hpower)
  have hless : Int.log 2 v < e + 52 := by
    have hpower : v < (2 : ℚ) ^ (e + 52) := by
      rw [zpow_add₀ (by norm_num)]
      norm_num
      linarith
    exact (Int.lt_zpow_iff_log_lt one_lt_two hpos).mp (by exact_mod_cast hpower)
  exact ⟨hm', by omega⟩

/-- A fraction in the basin of a double is in its binade, or just below a power of two. -/
theorem mantissaPower_of_contains (h : IsScaled m e) (hm : 0 < m) (hnum : 0 < num)
    (hden : 0 < den) (hv : (Basin.of m e).Contains ((num : ℚ) / den)) :
    mantissaPower num den = e ∨
      m = 2 ^ 52 ∧ -1074 < e ∧ (num : ℚ) / den < 2 ^ 52 * 2 ^ e ∧
        mantissaPower num den = e - 1 := by
  have hpos : (0 : ℚ) < (num : ℚ) / den := by positivity
  have hleast := h.least
  rw [mantissaPower_eq hnum hden]
  generalize (num : ℚ) / den = v at *
  have hmost := log_lt_of_contains h hm hpos hv
  by_cases hedge : e = -1074
  · left
    omega
  by_cases hbelow : v < 2 ^ 52 * 2 ^ e
  · obtain ⟨hm', hlog⟩ := log_of_contains_below (h.full hedge) (by omega) hpos hv hbelow
    exact .inr ⟨hm', by omega, hbelow, by omega⟩
  · left
    have hmore : e + 52 ≤ Int.log 2 v := by
      have hpower : (2 : ℚ) ^ (e + 52) ≤ v := by
        rw [zpow_add₀ (by norm_num)]
        norm_num
        linarith
      exact (Int.zpow_le_iff_le_log one_lt_two hpos).mp (by exact_mod_cast hpower)
    omega

theorem pos_of_contains (hm : 0 < m) {c : ℕ} {v : ℚ} (hv : (Basin.of m e).Contains (c * v)) :
    0 < c := by
  by_contra hzero
  obtain rfl : c = 0 := by omega
  have hp := two_zpow_pos e
  have hlow := (hv.bounds hm).1
  have hone : (1 : ℚ) ≤ m := by exact_mod_cast hm
  rw [Nat.cast_zero, zero_mul] at hlow
  nlinarith

/-- In the binade of the double the mantissa is the nearest integer. -/
theorem ofRatio_of_power (negative : Bool) (h : IsScaled m e) (hm : 0 < m) (hnum : 0 < num)
    (hden : 0 < den) (hv : (Basin.of m e).Contains ((num : ℚ) / den))
    (hpower : mantissaPower num den = e) : ofRatio negative num den = ofParts negative m e := by
  have hp := two_zpow_pos e
  have hmost := h.most
  have hlt := h.lt
  obtain ⟨hlow, hhigh, hodd, -⟩ := hv.bounds hm
  obtain ⟨hd, hscaled⟩ := scaled_spec num hden e
  have hround : roundDiv (scaled num den e).1 (scaled num den e).2 = m := by
    refine roundDiv_eq hd ?_ ?_ ?_ <;> rw [hscaled]
    · rwa [le_div_iff₀ hp]
    · rwa [div_le_iff₀ hp]
    · rwa [lt_div_iff₀ hp, div_lt_iff₀ hp]
  have hcarry : ¬ m = 2 ^ 53 := by omega
  have hlarge : ¬ 971 < e := by omega
  rw [ofRatio, if_neg hnum.ne', hpower]
  simp only [Nat.pow_eq]
  rw [hround, if_neg hcarry]
  dsimp only
  rw [if_neg hlarge]
  rfl

/-- Just below a power of two the mantissa is rounded up to one digit more, which is carried. -/
theorem ofRatio_of_power_below (negative : Bool) (h : IsScaled (2 ^ 52) e) (hleast : -1074 < e)
    (hnum : 0 < num) (hden : 0 < den) (hv : (Basin.of (2 ^ 52) e).Contains ((num : ℚ) / den))
    (hbelow : (num : ℚ) / den < 2 ^ 52 * 2 ^ e) (hpower : mantissaPower num den = e - 1) :
    ofRatio negative num den = ofParts negative (2 ^ 52) e := by
  have hp := two_zpow_pos e
  have hmost := h.most
  obtain ⟨-, -, -, hedge⟩ := hv.bounds (by norm_num)
  obtain ⟨hd, hscaled⟩ := scaled_spec num hden (e - 1)
  have hhalf : (2 : ℚ) ^ (e - 1) = 2 ^ e / 2 := by
    rw [zpow_sub₀ (by norm_num), zpow_one]
  have hnear := hedge rfl hleast
  push_cast at hnear
  have hround : roundDiv (scaled num den (e - 1)).1 (scaled num den (e - 1)).2 = 2 ^ 53 := by
    refine roundDiv_eq hd ?_ ?_ (by norm_num) <;> rw [hscaled, hhalf]
    · rw [le_div_iff₀ (by positivity)]
      push_cast
      linarith
    · rw [div_le_iff₀ (by positivity)]
      push_cast
      linarith
  have hlarge : ¬ 971 < e - 1 + 1 := by omega
  rw [ofRatio, if_neg hnum.ne', hpower]
  simp only [Nat.pow_eq]
  rw [hround, if_pos rfl]
  dsimp only
  rw [if_neg hlarge, sub_add_cancel]
  rfl

/-- A fraction in the basin of a double is rounded to the double. -/
theorem ofRatio_eq (negative : Bool) (h : IsScaled m e) (hm : 0 < m) (hden : 0 < den)
    (hv : (Basin.of m e).Contains ((num : ℚ) / den)) :
    ofRatio negative num den = ofParts negative m e := by
  have hnum : 0 < num := pos_of_contains (v := (den : ℚ)⁻¹) hm (by rwa [← div_eq_mul_inv])
  obtain hsame | ⟨rfl, hleast, hbelow, hpower⟩ := mantissaPower_of_contains h hm hnum hden hv
  · exact ofRatio_of_power negative h hm hnum hden hv hsame
  · exact ofRatio_of_power_below negative h hleast hnum hden hv hbelow hpower

/-- How large a number is, by the count of its digits. -/
theorem bounds_of_digits {c : ℕ} (hc : 0 < c) (k : ℤ) :
    (10 : ℚ) ^ ((Nat.toDigits 10 c).length + k - 1) ≤ c * 10 ^ k ∧
      (c : ℚ) * 10 ^ k < 10 ^ ((Nat.toDigits 10 c).length + k) := by
  have hlength : 0 < (Nat.toDigits 10 c).length := Nat.length_toDigits_pos
  have hk := ten_zpow_pos k
  have hhigh : c < 10 ^ (Nat.toDigits 10 c).length :=
    (Nat.length_toDigits_le_iff (by norm_num) hlength).mp le_rfl
  have hlow : 10 ^ ((Nat.toDigits 10 c).length - 1) ≤ c := by
    by_cases hone : (Nat.toDigits 10 c).length = 1
    · rw [hone]
      exact hc
    · by_contra hlt
      have := (Nat.length_toDigits_le_iff (n := c) (by norm_num) (by omega)).mpr (not_le.mp hlt)
      omega
  generalize (Nat.toDigits 10 c).length = length at *
  obtain ⟨more, rfl⟩ := Nat.exists_eq_add_of_lt hlength
  rw [Nat.zero_add, Nat.add_sub_cancel] at hlow
  rw [Nat.zero_add] at hhigh ⊢
  constructor
  · have hpower : ((more + 1 : ℕ) : ℤ) + k - 1 = (more : ℤ) + k := by
      push_cast
      ring
    rw [hpower, zpow_add₀ (by norm_num), zpow_natCast]
    gcongr
    exact_mod_cast hlow
  · rw [zpow_add₀ (by norm_num), zpow_natCast]
    gcongr
    exact_mod_cast hhigh

theorem two_pow_lt_ten_pow : 2 ^ 1024 < 10 ^ 310 ∧ 2 ^ 1075 < 10 ^ 331 := by
  decide +kernel

/-- A decimal in the basin of a double is neither too small nor too large to be read. -/
theorem size_of_contains (h : IsScaled m e) (hm : 0 < m) {c : ℕ} (hc : 0 < c) {k : ℤ}
    (hv : (Basin.of m e).Contains ((c : ℚ) * 10 ^ k)) :
    -330 ≤ ((Nat.toDigits 10 c).length : ℤ) + k ∧ ((Nat.toDigits 10 c).length : ℤ) + k ≤ 310 := by
  have hp := two_zpow_pos e
  obtain ⟨hlow, hhigh, -, -⟩ := hv.bounds hm
  have hone : (1 : ℚ) ≤ m := by exact_mod_cast hm
  have hmax : (m : ℚ) + 1 ≤ 2 ^ 53 := by exact_mod_cast h.lt
  obtain ⟨hdigits, hdigits'⟩ := bounds_of_digits hc k
  obtain ⟨hlargest, hleast⟩ := two_pow_lt_ten_pow
  constructor <;> by_contra hlt
  · have hconst : (10 : ℚ) ^ (-331 : ℤ) < 2 ^ (-1075 : ℤ) := by
      have hpowers : (2 : ℚ) ^ (1075 : ℤ) < 10 ^ (331 : ℤ) := by exact_mod_cast hleast
      rw [zpow_neg, zpow_neg]
      exact inv_strictAnti₀ (two_zpow_pos 1075) hpowers
    have hchain : (10 : ℚ) ^ (-331 : ℤ) < (m - 1 / 2) * 2 ^ e := calc
      (10 : ℚ) ^ (-331 : ℤ) < 2 ^ (-1075 : ℤ) := hconst
      _ ≤ 2 ^ (e - 1) := zpow_le_zpow_right₀ (by norm_num) (by have := h.least; omega)
      _ = 1 / 2 * 2 ^ e := by rw [zpow_sub₀ (by norm_num), zpow_one]; ring
      _ ≤ (m - 1 / 2) * 2 ^ e := by gcongr; linarith
    have htiny : (10 : ℚ) ^ ((Nat.toDigits 10 c).length + k) ≤ 10 ^ (-331 : ℤ) :=
      zpow_le_zpow_right₀ (by norm_num) (by omega)
    linarith
  · have hconst : (2 : ℚ) ^ (1024 : ℤ) < 10 ^ (310 : ℤ) := by exact_mod_cast hlargest
    have hchain : ((m : ℚ) + 1 / 2) * 2 ^ e < 10 ^ (310 : ℤ) := calc
      ((m : ℚ) + 1 / 2) * 2 ^ e ≤ 2 ^ 53 * 2 ^ e := by gcongr; linarith
      _ = 2 ^ (e + 53) := by rw [zpow_add₀ (by norm_num), mul_comm]; rfl
      _ ≤ 2 ^ (1024 : ℤ) := zpow_le_zpow_right₀ (by norm_num) (by have := h.most; omega)
      _ < 10 ^ (310 : ℤ) := hconst
    have hhuge : (10 : ℚ) ^ (310 : ℤ) ≤ 10 ^ ((Nat.toDigits 10 c).length + k - 1) :=
      zpow_le_zpow_right₀ (by norm_num) (by omega)
    linarith

/-- A decimal in the basin of a double is read as the double. -/
theorem ofDecimal_eq (negative : Bool) (h : IsScaled m e) (hm : 0 < m) {c : ℕ} {k : ℤ}
    (hv : (Basin.of m e).Contains ((c : ℚ) * 10 ^ k)) :
    ofDecimal negative c k = ofParts negative m e := by
  have hc : 0 < c := pos_of_contains hm hv
  obtain ⟨hsmall, hlarge⟩ := size_of_contains h hm hc hv
  rw [ofDecimal]
  simp only [Nat.pow_eq]
  rw [if_neg (by omega), if_neg (by omega)]
  split
  · next hk =>
    obtain ⟨j, rfl⟩ := Int.eq_ofNat_of_zero_le hk
    refine ofRatio_eq negative h hm one_pos ?_
    simpa using hv
  · next hk =>
    obtain ⟨j, rfl⟩ : ∃ j : ℕ, k = -j := ⟨(-k).toNat, by omega⟩
    refine ofRatio_eq negative h hm (by positivity) ?_
    simpa [div_eq_mul_inv] using hv

end Double
end DeferredViews.Number
