import JobImages.Proofs.Binary64.Rounding
import Mathlib.Algebra.Field.Rat
import Mathlib.Algebra.Order.Field.Basic
import Mathlib.Tactic.FieldSimp
import Mathlib.Tactic.Linarith
import Mathlib.Tactic.NormNum
import Mathlib.Tactic.Positivity
import Mathlib.Tactic.Ring

/-!
# Decimals of few digits

Neighbours among the doubles are so near to each other that of the decimals of at most fifteen
digits with a given exponent no two lie in the interval around one number.  So the shortest decimal
of the double that such a decimal is rounded to is the decimal itself.

## Main definitions

* `Decimal.value` — the rational number that a decimal is;
* `Decimal.nearest` — the double that is nearest to a decimal.

## Main results

* `Decimal.value_shortest_nearest` — a decimal of few digits is found again.
-/

namespace JobImages

/-- The rational number that a decimal is. -/
def Decimal.value (d : Decimal) : ℚ :=
  d.digits * 10 ^ d.exponent

/-- A decimal is a whole number of steps of each finer grid. -/
theorem Decimal.exists_value_eq {d : Decimal} {exponent : Int} (h : exponent ≤ d.exponent) :
    ∃ n : Nat, d.value = n * 10 ^ exponent := by
  obtain ⟨k, hk⟩ := Int.le.dest h
  refine ⟨d.digits * 10 ^ k, ?_⟩
  rw [Decimal.value, ← hk, zpow_add₀ (by norm_num), zpow_natCast]
  push_cast
  ring

namespace Binary64

/-- A step of a grid in quarters of a unit. -/
theorem step_div_scale (exponent : Int) :
    (step exponent / scale exponent : ℚ) = 4 * one * 10 ^ exponent := by
  unfold step scale
  simp only [Nat.pow_eq]
  push_cast
  generalize (one : ℚ) = unit
  rcases le_total 0 exponent with hpos | hneg
  · obtain ⟨n, rfl⟩ := Int.eq_ofNat_of_zero_le hpos
    simp
  · obtain ⟨n, hn⟩ := Int.eq_ofNat_of_zero_le (Int.neg_nonneg_of_nonpos hneg)
    obtain rfl : exponent = -n := by omega
    simp [div_eq_mul_inv]

/-- What lies in the interval around a number differs from it by at most one half of the distance to
the next greater number. -/
theorem bounds_of_holds {units : Nat} {d : Decimal}
    (h : (Interval.around units).holds (scale d.exponent) (d.digits * step d.exponent) = true) :
    units - 2 ^ spacing units / 2 ≤ one * d.value ∧
      one * d.value ≤ units + 2 ^ spacing units / 2 := by
  obtain ⟨⟨hlow, hhigh⟩, -⟩ := Interval.holds_iff.1 h
  have hscale : (0 : ℚ) < scale d.exponent := by exact_mod_cast scale_pos d.exponent
  have hpoint : 4 * (one * d.value) * scale d.exponent = d.digits * step d.exponent := by
    have hstep := step_div_scale d.exponent
    rw [div_eq_iff hscale.ne'] at hstep
    rw [hstep, Decimal.value]
    ring
  have hlower : (4 * units - 2 * 2 ^ spacing units : ℚ) ≤ (Interval.around units).low := by
    have hbelow := belowGrain_le units
    have hends : 4 * units ≤ (Interval.around units).low + 2 * 2 ^ spacing units := by
      rw [low_eq]
      omega
    rw [sub_le_iff_le_add]
    exact_mod_cast hends
  have hupper : ((Interval.around units).high : ℚ) = 4 * units + 2 * 2 ^ spacing units := by
    rw [high_eq]
    push_cast
    rfl
  have hlow : ((Interval.around units).low : ℚ) ≤ 4 * (one * d.value) := by
    refine le_of_mul_le_mul_right ?_ hscale
    rw [hpoint]
    exact_mod_cast hlow
  have hhigh : 4 * (one * d.value) ≤ (Interval.around units).high := by
    refine le_of_mul_le_mul_right ?_ hscale
    rw [hpoint]
    exact_mod_cast hhigh
  constructor <;> linarith

/-- If a decimal of at most fifteen digits lies in the interval around a number, then neighbours of
the number are less than a step of the decimal's grid apart. -/
theorem grain_lt_of_holds {units : Nat} {d : Decimal}
    (h : (Interval.around units).holds (scale d.exponent) (d.digits * step d.exponent) = true)
    (hfew : d.digits < 10 ^ 15) (hfine : -323 ≤ d.exponent) :
    (2 ^ spacing units : ℚ) < one * 10 ^ d.exponent := by
  have hpower : (0 : ℚ) < 10 ^ d.exponent := zpow_pos (by norm_num) _
  have hone : (0 : ℚ) < one := by exact_mod_cast one_pos
  have hunit : (0 : ℚ) < one * 10 ^ d.exponent := mul_pos hone hpower
  rcases Nat.eq_zero_or_pos (spacing units) with hleast | hwide
  · have hsubnormal : 10 ^ 323 < one := by decide +kernel
    rw [hleast, pow_zero]
    calc (1 : ℚ)
        _ = 10 ^ 323 * 10 ^ (-323 : ℤ) := by rw [zpow_neg]; norm_num
        _ < one * 10 ^ (-323 : ℤ) := by
          refine mul_lt_mul_of_pos_right ?_ (zpow_pos (by norm_num) _)
          exact_mod_cast hsubnormal
        _ ≤ one * 10 ^ d.exponent :=
          mul_le_mul_of_nonneg_left (zpow_le_zpow_right₀ (by norm_num) hfine) hone.le
  · have hgrain : (2 ^ 52 * 2 ^ spacing units : ℚ) ≤ units := by
      exact_mod_cast two_pow_spacing_le hwide
    have hvalue : one * d.value < 10 ^ 15 * (one * 10 ^ d.exponent) := by
      have hdigits : (d.digits : ℚ) < 10 ^ 15 := by exact_mod_cast hfew
      have hscaled := mul_lt_mul_of_pos_right hdigits hunit
      have hsame : one * d.value = d.digits * (one * 10 ^ d.exponent) := by
        rw [Decimal.value]
        ring
      rwa [hsame]
    have hnear := (bounds_of_holds h).1
    linarith

/-- A decimal of at most fifteen digits is the shortest decimal of every number around which it
lies in the interval. -/
theorem value_shortest {units : Nat} {d : Decimal}
    (h : (Interval.around units).holds (scale d.exponent) (d.digits * step d.exponent) = true)
    (hfew : d.digits < 10 ^ 15) (hfine : -323 ≤ d.exponent) (hcoarse : d.exponent ≤ 308) :
    (shortest units).value = d.value := by
  obtain ⟨hfound, hnone⟩ := shortest_spec units
  have hcoarser : d.exponent ≤ (shortest units).exponent := by
    rcases lt_or_ge (shortest units).exponent d.exponent with hfiner | hcoarser
    · obtain ⟨digits, hdigits⟩ := exists_onGrid?_of_holds h
      rw [hnone d.exponent hfiner hcoarse] at hdigits
      cases hdigits
    · exact hcoarser
  obtain ⟨n, hn⟩ := Decimal.exists_value_eq hcoarser
  have hunit : (0 : ℚ) < one * 10 ^ d.exponent :=
    mul_pos (by exact_mod_cast one_pos) (zpow_pos (by norm_num) _)
  have hscaled : ∀ m : ℚ, one * (m * 10 ^ d.exponent) = m * (one * 10 ^ d.exponent) :=
    fun m => mul_left_comm _ _ _
  -- Both are points of the decimal's grid, and they are less than a step apart.
  have hgrain := grain_lt_of_holds h hfew hfine
  have hfirst := bounds_of_holds (holds_of_onGrid? hfound)
  have hsecond := bounds_of_holds h
  rw [hn, hscaled] at hfirst
  rw [Decimal.value, hscaled] at hsecond
  have hless : (n : ℚ) < d.digits + 1 := by
    refine lt_of_mul_lt_mul_right ?_ hunit.le
    linarith [hfirst.2, hsecond.1]
  have hmore : (d.digits : ℚ) < n + 1 := by
    refine lt_of_mul_lt_mul_right ?_ hunit.le
    linarith [hfirst.1, hsecond.2]
  have hsame : n = d.digits := by
    have hless : n < d.digits + 1 := by exact_mod_cast hless
    have hmore : d.digits < n + 1 := by exact_mod_cast hmore
    omega
  rw [hn, hsame, Decimal.value]

end Binary64

/-- The number of units that is nearest to a decimal. -/
def Decimal.nearest (d : Decimal) : Nat :=
  Binary64.roundUnits (d.digits * 10 ^ d.exponent.toNat * Binary64.one) (10 ^ (-d.exponent).toNat)

/-- A decimal lies in the interval around what is nearest to it. -/
theorem Decimal.holds_nearest (d : Decimal) :
    (Binary64.Interval.around d.nearest).holds (Binary64.scale d.exponent)
      (d.digits * Binary64.step d.exponent) = true := by
  have hpoint : d.digits * Binary64.step d.exponent =
      4 * (d.digits * 10 ^ d.exponent.toNat * Binary64.one) := by
    unfold Binary64.step
    rw [Nat.pow_eq]
    ring
  rw [hpoint]
  exact Binary64.holds_roundUnits _ (Binary64.scale_pos d.exponent)

/-- **Fifteen digits survive.**  The shortest decimal of the double that is nearest to a decimal of
at most fifteen digits is that decimal. -/
theorem Decimal.value_shortest_nearest {d : Decimal} (hfew : d.digits < 10 ^ 15)
    (hfine : -323 ≤ d.exponent) (hcoarse : d.exponent ≤ 308) :
    (Binary64.shortest d.nearest).value = d.value :=
  Binary64.value_shortest d.holds_nearest hfew hfine hcoarse

end JobImages
