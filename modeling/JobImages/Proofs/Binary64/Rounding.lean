import JobImages.Proofs.Binary64.Shortest

/-!
# Rounding

A quotient is rounded to the nearest of the representable numbers, and so it lies in the interval
around the number that it is rounded to: the interval reaches half-way to both neighbours, and only
a number with an even significand takes the ends.  A quotient that is representable is rounded to
itself.

## Main results

* `Binary64.holds_roundUnits` — a quotient lies in the interval around what it is rounded to;
* `Binary64.roundUnits_of_exact` — a representable number is rounded to itself.
-/

namespace JobImages.Binary64

/-! ## To whole numbers -/

section RoundHalfEven

variable {numerator denominator : Nat}

/-- A quotient is no further than one half from what it is rounded to, and less if that is odd. -/
theorem roundHalfEven_near (numerator : Nat) (h : 0 < denominator) :
    let nearest := roundHalfEven numerator denominator
    (2 * (nearest * denominator) ≤ 2 * numerator + denominator ∧
        2 * numerator ≤ 2 * (nearest * denominator) + denominator) ∧
      (nearest % 2 ≠ 0 →
        2 * (nearest * denominator) ≠ 2 * numerator + denominator ∧
          2 * numerator ≠ 2 * (nearest * denominator) + denominator) := by
  intro nearest
  have hdiv := Nat.div_add_mod' numerator denominator
  have hmod := Nat.mod_lt numerator h
  have hnext : (numerator / denominator + 1) * denominator =
      numerator / denominator * denominator + denominator := by
    rw [Nat.add_mul, Nat.one_mul]
  unfold nearest roundHalfEven
  dsimp only
  split
  · omega
  · split
    · omega
    · -- Of the two that are equally near, the even one is taken.
      rcases Nat.mod_two_eq_zero_or_one (numerator / denominator) with heven | hodd
      · rw [heven, Nat.add_zero]
        omega
      · rw [hodd]
        omega

theorem roundHalfEven_mul (h : 0 < denominator) (n : Nat) :
    roundHalfEven (n * denominator) denominator = n := by
  unfold roundHalfEven
  dsimp only
  rw [Nat.mul_mod_left, Nat.mul_div_cancel n h, if_pos h]

theorem roundHalfEven_scaled {factor : Nat} (h : 0 < factor) :
    roundHalfEven (numerator * factor) (denominator * factor) =
      roundHalfEven numerator denominator := by
  have hlt : ∀ m n : Nat, m * factor < n * factor ↔ m < n := fun m n => Nat.mul_lt_mul_right h
  unfold roundHalfEven
  simp only [Nat.mul_div_mul_right _ _ h, Nat.mul_mod_mul_right, ← Nat.mul_assoc, hlt]

end RoundHalfEven

/-! ## The distance between neighbours -/

theorem spacing_eq {units k : Nat} (hlow : 2 ^ (52 + k) ≤ units) (hhigh : units < 2 ^ (53 + k)) :
    spacing units = k := by
  have hpos : units ≠ 0 := by
    have := Nat.two_pow_pos (52 + k)
    omega
  have hlog : units.log2 = 52 + k :=
    (Nat.log2_eq_iff hpos).2 ⟨hlow, by rwa [Nat.add_right_comm]⟩
  rw [spacing, hlog, Nat.add_sub_cancel_left]

theorem spacing_of_lt {units : Nat} (h : units < 2 ^ 53) : spacing units = 0 := by
  rcases Nat.eq_zero_or_pos units with rfl | hpos
  · rfl
  · have hlog : units.log2 < 53 := (Nat.log2_lt (Nat.pos_iff_ne_zero.1 hpos)).2 h
    unfold spacing
    omega

/-- A significand of 53 bits, or of fewer where neighbours are a unit apart, leaves the grain. -/
theorem spacing_of_significand {significand k : Nat} (hhigh : significand < 2 ^ 53)
    (hlow : 0 < k → 2 ^ 52 ≤ significand) : spacing (significand * 2 ^ k) = k := by
  rcases Nat.eq_zero_or_pos k with rfl | hk
  · rw [Nat.pow_zero, Nat.mul_one]
    exact spacing_of_lt hhigh
  · refine spacing_eq ?_ ?_
    · rw [Nat.pow_add]
      exact Nat.mul_le_mul_right _ (hlow hk)
    · rw [Nat.pow_add]
      exact Nat.mul_lt_mul_of_pos_right hhigh (Nat.two_pow_pos k)

/-! The least significand of 54 bits is the least one of 53 bits with twice the grain. -/

theorem two_pow_carry (k : Nat) : 2 ^ 53 * 2 ^ k = 2 ^ 52 * 2 ^ (k + 1) := by
  rw [Nat.pow_succ]
  omega

theorem spacing_carry (k : Nat) : spacing (2 ^ 53 * 2 ^ k) = k + 1 := by
  rw [two_pow_carry]
  exact spacing_of_significand (by decide) fun _ => Nat.le_refl _

theorem belowGrain_carry (k : Nat) : belowGrain (2 ^ 53 * 2 ^ k) = 2 ^ k := by
  have hspacing := spacing_carry k
  rw [belowGrain_of_power (hspacing ▸ Nat.succ_pos k) (hspacing ▸ two_pow_carry k), hspacing,
    Nat.pow_succ, Nat.mul_div_cancel _ Nat.two_pos]

theorem lt_two_pow_spacing (units : Nat) : units < 2 ^ (53 + spacing units) :=
  calc units
      _ < 2 ^ (units.log2 + 1) := Nat.lt_log2_self
      _ ≤ 2 ^ (53 + spacing units) := by
        refine Nat.pow_le_pow_right (by decide) ?_
        unfold spacing
        omega

theorem two_pow_spacing_le {units : Nat} (h : 0 < spacing units) :
    2 ^ 52 * 2 ^ spacing units ≤ units := by
  have hlog : 52 + spacing units = units.log2 := by
    unfold spacing at h ⊢
    omega
  have hpos : units ≠ 0 := by
    rintro rfl
    exact absurd h (by decide)
  rw [← Nat.pow_add, hlog]
  exact Nat.log2_self_le hpos

/-! ## To representable numbers -/

section RoundUnits

variable {numerator denominator : Nat}

theorem roundUnits_eq (numerator denominator : Nat) :
    roundUnits numerator denominator =
      roundHalfEven numerator (denominator * 2 ^ spacing (numerator / denominator)) *
        2 ^ spacing (numerator / denominator) := rfl

theorem roundUnits_scaled {factor : Nat} (h : 0 < factor) :
    roundUnits (numerator * factor) (denominator * factor) = roundUnits numerator denominator := by
  rw [roundUnits_eq, roundUnits_eq, Nat.mul_div_mul_right _ _ h, Nat.mul_right_comm,
    roundHalfEven_scaled h]

/-- A number with no more than 53 bits behind which there are only zeros is representable, and
rounded to itself. -/
theorem roundUnits_of_exact {significand k : Nat} (hfew : significand < 2 ^ 53)
    (h : 0 < denominator) :
    roundUnits (significand * 2 ^ k * denominator) denominator = significand * 2 ^ k := by
  have hspacing : spacing (significand * 2 ^ k) ≤ k := by
    rcases Nat.lt_or_ge k (spacing (significand * 2 ^ k)) with hlarge | hsmall
    · have hlow := two_pow_spacing_le (Nat.zero_lt_of_lt hlarge)
      have hmore : 2 ^ (k + 1) ≤ 2 ^ spacing (significand * 2 ^ k) :=
        Nat.pow_le_pow_right (by decide) hlarge
      have hbits : significand * 2 ^ k < 2 ^ 53 * 2 ^ k :=
        Nat.mul_lt_mul_of_pos_right hfew (Nat.two_pow_pos k)
      rw [Nat.pow_succ] at hmore
      omega
    · exact hsmall
  rw [roundUnits_eq, Nat.mul_div_cancel _ h]
  generalize spacing (significand * 2 ^ k) = coarse at hspacing
  -- A whole number of grains.
  obtain ⟨finer, rfl⟩ := Nat.exists_eq_add_of_le hspacing
  have hgrains : significand * 2 ^ (coarse + finer) * denominator =
      significand * 2 ^ finer * (denominator * 2 ^ coarse) := by
    rw [Nat.pow_add]
    ac_rfl
  rw [hgrains, roundHalfEven_mul (Nat.mul_pos h (Nat.two_pow_pos coarse)), Nat.pow_add]
  ac_rfl

/-- The significand that is rounded to has 53 bits, or is the least of one bit more; if neighbours
are more than a unit apart, it has no fewer. -/
theorem significand_bounds (numerator denominator : Nat) :
    let k := spacing (numerator / denominator)
    let significand := roundHalfEven numerator (denominator * 2 ^ k)
    significand ≤ 2 ^ 53 ∧
      (0 < k → 2 ^ 52 ≤ numerator / (denominator * 2 ^ k) ∧ 2 ^ 52 ≤ significand) := by
  intro k significand
  have hdiv : numerator / (denominator * 2 ^ k) = numerator / denominator / 2 ^ k :=
    (Nat.div_div_eq_div_mul _ _ _).symm
  have hhigh : numerator / (denominator * 2 ^ k) < 2 ^ 53 := by
    rw [hdiv]
    refine Nat.div_lt_of_lt_mul ?_
    rw [← Nat.pow_add, Nat.add_comm]
    exact lt_two_pow_spacing _
  have hcases := roundHalfEven_cases numerator (denominator * 2 ^ k)
  refine ⟨by omega, fun hk => ?_⟩
  have hlow : 2 ^ 52 ≤ numerator / (denominator * 2 ^ k) := by
    rw [hdiv, Nat.le_div_iff_mul_le (Nat.two_pow_pos k)]
    exact two_pow_spacing_le hk
  exact ⟨hlow, by omega⟩

/-- A quotient lies in the interval around what it is rounded to. -/
theorem holds_roundUnits (numerator : Nat) (h : 0 < denominator) :
    (Interval.around (roundUnits numerator denominator)).holds denominator (4 * numerator) =
      true := by
  obtain ⟨hfew, hmany⟩ := significand_bounds numerator denominator
  have hcases := roundHalfEven_cases numerator
    (denominator * 2 ^ spacing (numerator / denominator))
  have hbelow := Nat.div_mul_le_self numerator
    (denominator * 2 ^ spacing (numerator / denominator))
  obtain ⟨hnear, hodd⟩ := roundHalfEven_near numerator
    (Nat.mul_pos h (Nat.two_pow_pos (spacing (numerator / denominator))))
  rw [roundUnits_eq]
  generalize spacing (numerator / denominator) = k at *
  generalize roundHalfEven numerator (denominator * 2 ^ k) = significand at *
  have hpoint : 4 * (significand * 2 ^ k) * denominator =
      4 * (significand * (denominator * 2 ^ k)) := by ac_rfl
  have hgrain : 2 * 2 ^ k * denominator = 2 * (denominator * 2 ^ k) := by ac_rfl
  rcases Nat.lt_or_eq_of_le hfew with hlt | rfl
  · have hspacing := spacing_of_significand hlt fun hk => (hmany hk).2
    have hparity : significand * 2 ^ k / 2 ^ k = significand :=
      Nat.mul_div_cancel significand (Nat.two_pow_pos k)
    rcases belowGrain_cases (significand * 2 ^ k) with husual | ⟨hk, hpower, -⟩
    · refine holds_around ?_ ?_ fun hopen => ?_
      · rw [husual, hspacing, hpoint, hgrain]
        omega
      · rw [hspacing, hpoint, hgrain]
        omega
      · rw [hspacing, hparity] at hopen
        rw [husual, hspacing, hpoint, hgrain]
        have hends := hodd hopen
        omega
    · -- A power of two is even, and what is rounded to it is no less.
      rw [hspacing] at hk hpower
      have hsignificand := Nat.eq_of_mul_eq_mul_right (Nat.two_pow_pos k) hpower
      have hquotient : numerator / (denominator * 2 ^ k) = significand := by
        have hmost := (hmany hk).1
        omega
      rw [hquotient] at hbelow
      refine holds_around ?_ ?_ fun hopen => ?_
      · rw [hpoint]
        omega
      · rw [hspacing, hpoint, hgrain]
        omega
      · rw [hspacing, hparity, hsignificand] at hopen
        exact absurd rfl hopen
  · -- A significand of one bit more is a power of two too, but what is rounded to it is less.
    refine holds_around ?_ ?_ fun hopen => ?_
    · rw [belowGrain_carry, hpoint, hgrain]
      omega
    · have hwide : 2 * 2 ^ (k + 1) * denominator = 2 * (2 * (denominator * 2 ^ k)) := by
        rw [Nat.pow_succ]
        ac_rfl
      rw [spacing_carry, hpoint, hwide]
      omega
    · rw [spacing_carry, two_pow_carry, Nat.mul_div_cancel _ (Nat.two_pow_pos (k + 1))] at hopen
      exact absurd rfl hopen

/-- What a quotient is rounded to is at most twice as great. -/
theorem roundUnits_mul_le (h : 0 < denominator) :
    roundUnits numerator denominator * denominator ≤ 2 * numerator := by
  obtain ⟨⟨hlow, -⟩, -⟩ := Interval.holds_iff.1 (holds_roundUnits numerator h)
  generalize roundUnits numerator denominator = units at *
  rcases Nat.eq_zero_or_pos units with rfl | hpos
  · omega
  · have hhalf : 2 * units ≤ (Interval.around units).low := by
      have hgrain := Nat.le_trans (belowGrain_le units) (grain_le hpos)
      rw [low_eq]
      omega
    have hscaled := Nat.mul_le_mul_right denominator hhalf
    rw [Nat.mul_assoc] at hscaled
    omega

theorem ofUnits?_of_lt {negative : Bool} {numerator denominator : Nat}
    (h : roundUnits numerator denominator < overflow) :
    ofUnits? negative numerator denominator =
      some { negative, units := roundUnits numerator denominator } := by
  unfold ofUnits?
  dsimp only
  rw [if_pos h]

end RoundUnits

end JobImages.Binary64
