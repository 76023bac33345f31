import JobImages.Binary64.Shortest
import Mathlib.Algebra.Group.Nat.Defs

/-!
# The search for the shortest decimal

The search tries one grid after the other and takes the first that has a point in the interval
around the number.  Only two points of a grid are looked at, those beside the number; but if any
point lies in the interval, one of these does.  The finest grid is fine enough for every number but
zero, so that the search comes to an end; and since the interval does not reach down to zero, what
it finds has a digit other than zero.

## Main results

* `Binary64.holds_of_onGrid?` — what is found on a grid lies in the interval;
* `Binary64.exists_onGrid?_of_holds` — if a point of a grid lies in it, one is found;
* `Binary64.shortest_spec` — the shortest decimal is a point of the coarsest grid that has one.
-/

namespace JobImages.Binary64

variable {units : Nat} {exponent : Int} {digits : Nat}

/-- One is a power of two. -/
theorem exists_one_eq : ∃ k, one = 2 ^ k := by
  unfold one
  generalize 1074 = k
  exact ⟨k, rfl⟩

theorem one_pos : 0 < one := by
  obtain ⟨k, hk⟩ := exists_one_eq
  rw [hk]
  exact Nat.two_pow_pos k

/-! ## The interval around a number -/

namespace Interval

variable {interval : Interval} {scale point other : Nat}

/-- A point lies between the ends, and on one of them only if the interval is closed. -/
theorem holds_iff :
    interval.holds scale point = true ↔
      (interval.low * scale ≤ point ∧ point ≤ interval.high * scale) ∧
        (interval.closed = false → interval.low * scale ≠ point ∧ point ≠ interval.high * scale) := by
  unfold holds
  cases interval.closed with
  | true => simp
  | false =>
    rw [if_neg Bool.false_ne_true, Bool.and_eq_true, decide_eq_true_eq, decide_eq_true_eq]
    constructor
    · rintro ⟨hlow, hhigh⟩
      exact ⟨⟨by omega, by omega⟩, fun _ => ⟨by omega, by omega⟩⟩
    · rintro ⟨⟨hlow, hhigh⟩, hopen⟩
      have hends := hopen rfl
      omega

theorem holds_of_lt (hlow : interval.low * scale < point) (hhigh : point < interval.high * scale) :
    interval.holds scale point = true :=
  holds_iff.2 ⟨⟨Nat.le_of_lt hlow, Nat.le_of_lt hhigh⟩,
    fun _ => ⟨Nat.ne_of_lt hlow, Nat.ne_of_lt hhigh⟩⟩

/-- From a point upwards, all that is below the upper end lies in the interval. -/
theorem holds_of_le (h : interval.holds scale point = true) (hle : point ≤ other)
    (hhigh : other < interval.high * scale) : interval.holds scale other = true := by
  obtain ⟨⟨hlow, -⟩, hopen⟩ := holds_iff.1 h
  refine holds_iff.2 ⟨⟨by omega, by omega⟩, fun hclosed => ?_⟩
  have hends := hopen hclosed
  omega

/-- From a point downwards, all that is above the lower end lies in the interval. -/
theorem holds_of_ge (h : interval.holds scale point = true) (hle : other ≤ point)
    (hlow : interval.low * scale < other) : interval.holds scale other = true := by
  obtain ⟨⟨-, hhigh⟩, hopen⟩ := holds_iff.1 h
  refine holds_iff.2 ⟨⟨by omega, by omega⟩, fun hclosed => ?_⟩
  have hends := hopen hclosed
  omega

end Interval

/-- How far the next lower number is away. -/
def belowGrain (units : Nat) : Nat :=
  if 0 < spacing units && units == 2 ^ 52 * 2 ^ spacing units then 2 ^ spacing units / 2
  else 2 ^ spacing units

theorem low_eq (units : Nat) :
    (Interval.around units).low = 4 * units - 2 * belowGrain units := rfl

theorem high_eq (units : Nat) :
    (Interval.around units).high = 4 * units + 2 * 2 ^ spacing units := rfl

theorem closed_eq_false_iff (units : Nat) :
    (Interval.around units).closed = false ↔ units / 2 ^ spacing units % 2 ≠ 0 :=
  beq_eq_false_iff_ne

/-- The next lower number is as far away as the next greater one, or half as far from a power of
two. -/
theorem belowGrain_cases (units : Nat) :
    belowGrain units = 2 ^ spacing units ∨
      0 < spacing units ∧ units = 2 ^ 52 * 2 ^ spacing units ∧
        belowGrain units = 2 ^ spacing units / 2 := by
  unfold belowGrain
  split
  · next hpower =>
    rw [Bool.and_eq_true, decide_eq_true_eq, beq_iff_eq] at hpower
    exact .inr ⟨hpower.1, hpower.2, rfl⟩
  · exact .inl rfl

theorem belowGrain_of_power (hpos : 0 < spacing units) (h : units = 2 ^ 52 * 2 ^ spacing units) :
    belowGrain units = 2 ^ spacing units / 2 := by
  rw [belowGrain, decide_eq_true hpos, Bool.true_and, if_pos (beq_iff_eq.2 h)]

theorem belowGrain_le (units : Nat) : belowGrain units ≤ 2 ^ spacing units := by
  have hcases := belowGrain_cases units
  omega

/-- Neighbours are no further apart than the number is from zero. -/
theorem grain_le (h : 0 < units) : 2 ^ spacing units ≤ units :=
  calc 2 ^ spacing units
      _ ≤ 2 ^ units.log2 := Nat.pow_le_pow_right (by decide) (Nat.sub_le _ _)
      _ ≤ units := Nat.log2_self_le (Nat.pos_iff_ne_zero.1 h)

/-- The interval around a number does not reach down to zero. -/
theorem low_pos (h : 0 < units) : 0 < (Interval.around units).low := by
  have hgrain := grain_le h
  have hbelow := belowGrain_le units
  rw [low_eq]
  omega

/-- What is nearer than half-way to the neighbours lies in the interval. -/
theorem holds_around {scale point : Nat}
    (hlow : 4 * units * scale ≤ point + 2 * belowGrain units * scale)
    (hhigh : point ≤ 4 * units * scale + 2 * 2 ^ spacing units * scale)
    (hodd : units / 2 ^ spacing units % 2 ≠ 0 →
      4 * units * scale ≠ point + 2 * belowGrain units * scale ∧
        point ≠ 4 * units * scale + 2 * 2 ^ spacing units * scale) :
    (Interval.around units).holds scale point = true := by
  rw [Interval.holds_iff, closed_eq_false_iff, low_eq, high_eq, Nat.sub_mul, Nat.add_mul]
  refine ⟨⟨by omega, hhigh⟩, fun hopen => ?_⟩
  have hends := hodd hopen
  -- The lower end is not cut off at zero.
  have hpos : 0 < units := by
    rcases Nat.eq_zero_or_pos units with rfl | hpos
    · exact absurd (by rw [Nat.zero_div]) hopen
    · exact hpos
  have hgrain := Nat.mul_le_mul_right scale (Nat.le_trans (belowGrain_le units) (grain_le hpos))
  have hleft : 4 * units * scale = 4 * (units * scale) := Nat.mul_assoc 4 units scale
  have hright : 2 * belowGrain units * scale = 2 * (belowGrain units * scale) :=
    Nat.mul_assoc 2 (belowGrain units) scale
  omega

/-! ## One grid -/

theorem roundHalfEven_cases (numerator denominator : Nat) :
    roundHalfEven numerator denominator = numerator / denominator ∨
      roundHalfEven numerator denominator = numerator / denominator + 1 := by
  unfold roundHalfEven
  dsimp only
  split
  · exact .inl rfl
  · split
    · exact .inr rfl
    · omega

/-- In a measure in which one and the grid are whole, how many quarters of a unit one is. -/
def scale (exponent : Int) : Nat :=
  Nat.pow 10 (-exponent).toNat

/-- In that measure, how many quarters of a unit points of the grid are apart. -/
def step (exponent : Int) : Nat :=
  4 * one * Nat.pow 10 exponent.toNat

theorem scale_pos (exponent : Int) : 0 < scale exponent :=
  Nat.pow_pos (by decide)

theorem step_pos (exponent : Int) : 0 < step exponent :=
  Nat.mul_pos (Nat.mul_pos (by decide) one_pos) (Nat.pow_pos (by decide))

/-- What is found on a grid lies in the interval. -/
theorem holds_of_onGrid? (h : onGrid? units exponent = some digits) :
    (Interval.around units).holds (scale exponent) (digits * step exponent) = true := by
  unfold onGrid? at h
  dsimp only at h
  split at h
  · next hboth =>
    rw [← Option.some.inj h]
    rcases roundHalfEven_cases (4 * units * scale exponent) (step exponent) with hbelow | habove
    · exact hbelow ▸ (Bool.and_eq_true_iff.1 hboth).1
    · exact habove ▸ (Bool.and_eq_true_iff.1 hboth).2
  · split at h
    · next hbelow => exact Option.some.inj h ▸ hbelow
    · split at h
      · next habove => exact Option.some.inj h ▸ habove
      · cases h

/-- Zero is never found. -/
theorem digits_pos_of_onGrid? (h : 0 < units) (hfound : onGrid? units exponent = some digits) :
    0 < digits := by
  obtain ⟨⟨hlow, -⟩, -⟩ := Interval.holds_iff.1 (holds_of_onGrid? hfound)
  have hpos : 0 < (Interval.around units).low * scale exponent :=
    Nat.mul_pos (low_pos h) (scale_pos exponent)
  exact Nat.pos_of_mul_pos_right (Nat.lt_of_lt_of_le hpos hlow)

/-- If any point of a grid lies in the interval, the next one on the same side of the number does,
so that one is found. -/
theorem exists_onGrid?_of_holds
    (h : (Interval.around units).holds (scale exponent) (digits * step exponent) = true) :
    ∃ found, onGrid? units exponent = some found := by
  have hlow : (Interval.around units).low * scale exponent ≤ 4 * units * scale exponent :=
    Nat.mul_le_mul_right _ (Nat.sub_le _ _)
  have hhigh : 4 * units * scale exponent < (Interval.around units).high * scale exponent := by
    refine Nat.mul_lt_mul_of_pos_right ?_ (scale_pos exponent)
    have hgrain : 0 < 2 ^ spacing units := Nat.two_pow_pos _
    rw [high_eq]
    omega
  have hbelow : 4 * units * scale exponent / step exponent * step exponent ≤
      4 * units * scale exponent := Nat.div_mul_le_self _ _
  have habove : 4 * units * scale exponent <
      (4 * units * scale exponent / step exponent + 1) * step exponent := by
    rw [Nat.add_mul, Nat.one_mul]
    exact Nat.lt_div_mul_add (step_pos exponent)
  have hbeside : (Interval.around units).holds (scale exponent)
        (4 * units * scale exponent / step exponent * step exponent) = true ∨
      (Interval.around units).holds (scale exponent)
        ((4 * units * scale exponent / step exponent + 1) * step exponent) = true := by
    rcases Nat.lt_or_ge (4 * units * scale exponent / step exponent) digits with hside | hside
    · refine .inr (Interval.holds_of_ge h (Nat.mul_le_mul_right _ hside) ?_)
      exact Nat.lt_of_le_of_lt hlow habove
    · refine .inl (Interval.holds_of_le h (Nat.mul_le_mul_right _ hside) ?_)
      exact Nat.lt_of_le_of_lt hbelow hhigh
  cases hfound : onGrid? units exponent with
  | some found => exact ⟨found, rfl⟩
  | none =>
    unfold onGrid? at hfound
    dsimp only at hfound
    split at hfound
    · cases hfound
    · split at hfound
      · cases hfound
      · next hbelow =>
        split at hfound
        · cases hfound
        · next habove => exact absurd hbeside (not_or.2 ⟨hbelow, habove⟩)

/-! ## The grids from the coarsest on -/

theorem mem_gridExponents_iff : exponent ∈ gridExponents ↔ -324 ≤ exponent ∧ exponent ≤ 308 := by
  unfold gridExponents
  rw [List.mem_map]
  constructor
  · rintro ⟨i, hi, rfl⟩
    have hlt := List.mem_range.1 hi
    omega
  · rintro ⟨hlow, hhigh⟩
    exact ⟨(308 - exponent).toNat, List.mem_range.2 (by omega), by omega⟩

theorem pairwise_gridExponents : gridExponents.Pairwise (· > ·) := by
  unfold gridExponents
  rw [List.pairwise_map]
  refine List.pairwise_lt_range.imp fun hlt => ?_
  omega

/-- The points of the finest grid are so near to each other that one of them lies in the interval
around any number. -/
theorem exists_onGrid?_finest (units : Nat) : ∃ digits, onGrid? units (-324) = some digits := by
  have hstep : step (-324) < 2 * scale (-324) := by decide +kernel
  have hdiv := Nat.div_add_mod' (4 * units * scale (-324)) (step (-324))
  have hmod := Nat.mod_lt (4 * units * scale (-324)) (step_pos (-324))
  have habove : (Interval.around units).holds (scale (-324))
      ((4 * units * scale (-324) / step (-324) + 1) * step (-324)) = true := by
    refine Interval.holds_of_lt ?_ ?_
    · have hlow : (Interval.around units).low * scale (-324) ≤ 4 * units * scale (-324) :=
        Nat.mul_le_mul_right _ (Nat.sub_le _ _)
      rw [Nat.add_mul, Nat.one_mul]
      omega
    · have hgrain : 2 * scale (-324) ≤ 2 * 2 ^ spacing units * scale (-324) :=
        Nat.mul_le_mul_right _ (Nat.le_mul_of_pos_right 2 (Nat.two_pow_pos _))
      rw [high_eq, Nat.add_mul, Nat.add_mul, Nat.one_mul]
      omega
  exact exists_onGrid?_of_holds habove

/-- What the search finds is a point of its grid, and no coarser grid has one. -/
theorem shortest_spec (units : Nat) :
    onGrid? units (shortest units).exponent = some (shortest units).digits ∧
      ∀ exponent, (shortest units).exponent < exponent → exponent ≤ 308 →
        onGrid? units exponent = none := by
  obtain ⟨least, hleast⟩ := exists_onGrid?_finest units
  have hfinest : (-324 : Int) ∈ gridExponents := mem_gridExponents_iff.2 (by decide)
  unfold shortest
  dsimp only
  cases hhit : gridExponents.findSome? fun exponent =>
      (onGrid? units exponent).map fun digits => ({ digits, exponent } : Decimal) with
  | none =>
    have hnone := List.findSome?_eq_none_iff.1 hhit (-324) hfinest
    rw [hleast] at hnone
    cases hnone
  | some hit =>
    obtain ⟨coarser, found, finer, hgrids, hfound, hnone⟩ := List.findSome?_eq_some_iff.1 hhit
    obtain ⟨digits, hdigits, rfl⟩ := Option.map_eq_some_iff.1 hfound
    refine ⟨hdigits, fun exponent (hcoarser : found < exponent) hgreatest => ?_⟩
    -- The grids are in order, so a coarser one has been tried before.
    have hordered := pairwise_gridExponents
    rw [hgrids, List.pairwise_append, List.pairwise_cons] at hordered
    have hmem : found ∈ gridExponents := by simp [hgrids]
    have hlow := (mem_gridExponents_iff.1 hmem).1
    have htried : exponent ∈ gridExponents := mem_gridExponents_iff.2 ⟨by omega, hgreatest⟩
    rw [hgrids, List.mem_append, List.mem_cons] at htried
    rcases htried with hbefore | rfl | hafter
    · exact Option.map_eq_none_iff.1 (hnone exponent hbefore)
    · omega
    · have hfiner := hordered.2.1.1 exponent hafter
      omega

theorem digits_shortest_pos (h : 0 < units) : 0 < (shortest units).digits :=
  digits_pos_of_onGrid? h (shortest_spec units).1

end JobImages.Binary64
