import JobImages.Proofs.Binary64.FewDigits

/-!
# Roundings up to a factor

A rounding to the nearest double changes a number by very little, unless that is near zero.  Where
only the order of magnitude counts it is enough to know that no number of at least one unit is
changed by more than a factor of two, and factors are multiplied along a calculation.

## Main definitions

* `Within` — numbers that differ by no more than a factor;
* `Binary64.magnitude` — a double without its sign, as a rational number.

## Main results

* `Binary64.within_roundUnits` — a rounding changes a number by a factor of two at most;
* `Binary64.exists_ofNat?`, `Binary64.within_round_product` — so do the operations of doubles.
-/

namespace JobImages

/-! ## Factors -/

/-- Neither of two numbers is more than some times the other. -/
def Within (factor a b : ℚ) : Prop :=
  a ≤ factor * b ∧ b ≤ factor * a

namespace Within

variable {factor factor' a b c d : ℚ}

theorem trans (h : Within factor a b) (h' : Within factor' b c) (hpos : 0 ≤ factor)
    (hpos' : 0 ≤ factor') : Within (factor * factor') a c := by
  refine ⟨?_, ?_⟩
  · calc a
        _ ≤ factor * b := h.1
        _ ≤ factor * (factor' * c) := mul_le_mul_of_nonneg_left h'.1 hpos
        _ = factor * factor' * c := by ring
  · calc c
        _ ≤ factor' * b := h'.2
        _ ≤ factor' * (factor * a) := mul_le_mul_of_nonneg_left h.2 hpos'
        _ = factor * factor' * a := by ring

theorem mul (h : Within factor a b) (h' : Within factor' c d) (ha : 0 ≤ a) (hb : 0 ≤ b)
    (hc : 0 ≤ c) (hd : 0 ≤ d) : Within (factor * factor') (a * c) (b * d) := by
  refine ⟨?_, ?_⟩
  · calc a * c
        _ ≤ factor * b * (factor' * d) := mul_le_mul h.1 h'.1 hc (ha.trans h.1)
        _ = factor * factor' * (b * d) := by ring
  · calc b * d
        _ ≤ factor * a * (factor' * c) := mul_le_mul h.2 h'.2 hd (hb.trans h.2)
        _ = factor * factor' * (a * c) := by ring

/-- A common multiple changes nothing. -/
theorem mul_right (h : Within factor a b) (hc : 0 ≤ c) : Within factor (a * c) (b * c) := by
  refine ⟨?_, ?_⟩
  · calc a * c
        _ ≤ factor * b * c := mul_le_mul_of_nonneg_right h.1 hc
        _ = factor * (b * c) := by ring
  · calc b * c
        _ ≤ factor * a * c := mul_le_mul_of_nonneg_right h.2 hc
        _ = factor * (a * c) := by ring

/-- Two numbers of which one is between another and its double. -/
theorem of_bounds (low : ℚ) (ha : low ≤ a ∧ a ≤ 2 * low) (hb : low ≤ b ∧ b ≤ 2 * low) :
    Within 2 a b :=
  ⟨by linarith, by linarith⟩

end Within

namespace Binary64

/-! ## Roundings -/

section Rounding

variable {numerator denominator : Nat}

/-- A quotient of at least one unit is at most twice as great as what it is rounded to. -/
theorem le_roundUnits_mul (h : 0 < denominator) (hle : denominator ≤ numerator) :
    numerator ≤ 2 * (roundUnits numerator denominator * denominator) := by
  have hquotient : 0 < numerator / denominator := Nat.div_pos hle h
  have hgrain : 2 ^ spacing (numerator / denominator) ≤ numerator / denominator := by
    rcases Nat.eq_zero_or_pos (spacing (numerator / denominator)) with hzero | hpos
    · rw [hzero]
      exact hquotient
    · exact Nat.le_trans (Nat.le_mul_of_pos_left _ (by decide)) (two_pow_spacing_le hpos)
  rw [roundUnits_eq]
  have hsome : 0 < 2 ^ spacing (numerator / denominator) := Nat.two_pow_pos _
  generalize 2 ^ spacing (numerator / denominator) = grain at hgrain hsome
  have hwhole : denominator * grain ≤ numerator := by
    rw [Nat.mul_comm]
    exact (Nat.le_div_iff_mul_le h).1 hgrain
  have hpos : 0 < denominator * grain := Nat.mul_pos h hsome
  -- A number of at least one grain has at least half as many whole grains.
  have hnext := Nat.lt_mul_div_succ numerator hpos
  have hone : 1 ≤ numerator / (denominator * grain) := Nat.div_pos hwhole hpos
  have hrounded : numerator / (denominator * grain) ≤
      roundHalfEven numerator (denominator * grain) := by
    have hcases := roundHalfEven_cases numerator (denominator * grain)
    omega
  calc numerator
      _ ≤ denominator * grain * (numerator / (denominator * grain) + 1) := Nat.le_of_lt hnext
      _ ≤ denominator * grain * (2 * roundHalfEven numerator (denominator * grain)) :=
        Nat.mul_le_mul_left _ (by omega)
      _ = 2 * (roundHalfEven numerator (denominator * grain) * grain * denominator) := by ring

/-- A rounding changes what is at least one unit by a factor of two at most. -/
theorem within_roundUnits (h : 0 < denominator) (hle : denominator ≤ numerator) :
    Within 2 (roundUnits numerator denominator) (numerator / denominator : ℚ) := by
  have hpos : (0 : ℚ) < denominator := Nat.cast_pos.2 h
  have hhigh : (roundUnits numerator denominator * denominator : ℚ) ≤ 2 * numerator := by
    exact_mod_cast roundUnits_mul_le h
  have hlow : (numerator : ℚ) ≤ 2 * (roundUnits numerator denominator * denominator) := by
    exact_mod_cast le_roundUnits_mul h hle
  refine ⟨?_, ?_⟩
  · rw [← mul_div_assoc, le_div_iff₀ hpos]
    exact hhigh
  · rw [div_le_iff₀ hpos]
    linarith

end Rounding

/-! ## Magnitudes -/

/-- A double without its sign, as a rational number. -/
def magnitude (x : Binary64) : ℚ :=
  x.units / one

theorem one_pos_rat : (0 : ℚ) < one :=
  Nat.cast_pos.2 one_pos

theorem magnitude_nonneg (x : Binary64) : 0 ≤ x.magnitude :=
  div_nonneg (Nat.cast_nonneg _) one_pos_rat.le

theorem four_le_one : 4 ≤ one := by decide +kernel

theorem overflow_pos : 0 < overflow := by decide +kernel

theorem overflow_eq : overflow = 2 ^ 1024 * one := by decide +kernel

theorem units_lt_iff {x : Binary64} {bound : Nat} :
    x.units < bound * one ↔ x.magnitude < bound := by
  rw [magnitude, div_lt_iff₀ one_pos_rat]
  exact_mod_cast Iff.rfl

/-- A natural number is rounded to one that differs by a factor of two at most. -/
theorem within_round_nat (negative : Bool) {n : Nat} (hpos : 0 < n) :
    Within 2 (magnitude { negative, units := roundUnits (n * one) 1 }) n := by
  have hunits := (within_roundUnits Nat.one_pos (Nat.mul_pos hpos one_pos)).mul_right
    (inv_nonneg.2 one_pos_rat.le)
  have hcancel : (((n * one : Nat) : ℚ) / (1 : Nat)) * (one : ℚ)⁻¹ = n := by
    have hne := one_pos_rat.ne'
    push_cast
    field_simp
  rw [hcancel, ← div_eq_mul_inv] at hunits
  exact hunits

/-- A number of 64 bits is one of the doubles, up to a factor of two. -/
theorem exists_ofNat? {n : Nat} (hpos : 0 < n) (h : n < 2 ^ 64) :
    ∃ x, ofNat? n = some x ∧ x.units < overflow ∧ Within 2 x.magnitude n := by
  let x : Binary64 := { negative := false, units := roundUnits (n * one) 1 }
  have hnear : Within 2 x.magnitude n := within_round_nat false hpos
  have hfinite : x.units < overflow := by
    rw [overflow_eq, units_lt_iff]
    have hn : (n : ℚ) < 2 ^ 64 := by exact_mod_cast h
    calc x.magnitude
        _ ≤ 2 * n := hnear.1
        _ < 2 ^ 65 := by linarith
        _ ≤ 2 ^ 1024 := pow_le_pow_right₀ (by norm_num) (by decide)
        _ = ((2 ^ 1024 : Nat) : ℚ) := by rw [Nat.cast_pow, Nat.cast_ofNat]
  exact ⟨x, ofUnits?_of_lt hfinite, hfinite, hnear⟩

/-- The product of two doubles is rounded to one that differs by a factor of two at most. -/
theorem within_round_product (negative : Bool) {x y : Binary64} (hx : 1 ≤ 2 * x.magnitude)
    (hy : 1 ≤ 2 * y.magnitude) :
    Within 2 (magnitude { negative, units := roundUnits (x.units * y.units) one })
      (x.magnitude * y.magnitude) := by
  have hunit : one ≤ x.units * y.units := by
    have hfour : (4 : ℚ) ≤ one := by exact_mod_cast four_le_one
    have hquarter : (1 : ℚ) ≤ 4 * (x.magnitude * y.magnitude) := by nlinarith
    have hcast : (one : ℚ) ≤ x.units * y.units := by
      rw [magnitude, magnitude, div_mul_div_comm, ← mul_div_assoc,
        le_div_iff₀ (mul_pos one_pos_rat one_pos_rat)] at hquarter
      nlinarith
    exact_mod_cast hcast
  have hunits := (within_roundUnits one_pos hunit).mul_right (inv_nonneg.2 one_pos_rat.le)
  have hproduct : (((x.units * y.units : Nat) : ℚ) / one) * (one : ℚ)⁻¹ =
      x.magnitude * y.magnitude := by
    have hne := one_pos_rat.ne'
    rw [magnitude, magnitude]
    push_cast
    field_simp
  rw [hproduct, ← div_eq_mul_inv] at hunits
  exact hunits

end Binary64

end JobImages
