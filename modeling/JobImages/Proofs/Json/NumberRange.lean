import JobImages.Proofs.Binary64.Factor
import JobImages.Proofs.Json.ShortNumber

/-!
# Which numbers are refused

A literal denotes an integer, or a double, or nothing because it is too great.  An integer is exact:
it is written without point and exponent and fits a word.  Everything else is a double, and how that
is come by is a matter of roundings and of digits that are left out.  None of them changes a number
by more than a factor of two, so a literal well below the greatest double is never refused, and one
well above it always is.

Only a literal of more than a thousand million characters may be refused for its exponent alone.

## Main definitions

* `Collected` — what is collected of some digits behind a number.

## Main results

* `timesPowerOfTen?_of_within` — when a product with a power of ten is refused;
* `Literal.within_scaled` — the digits that are collected are nearly all of the number;
* `Literal.integer?_eq_some_iff` — which literals are exact integers;
* `Literal.number?_decided` — which literals denote which numbers.
-/

namespace JobImages

namespace Json

/-! ## Powers of ten -/

theorem within_powerOfTen (exponent : Nat) :
    Within 2 (powerOfTen exponent).magnitude (10 ^ exponent) := by
  have hpower := Binary64.within_round_nat false (Nat.pow_pos (n := exponent) (by decide : 0 < 10))
  push_cast at hpower
  exact hpower

/-- Dividing by a power of ten leaves no more. -/
theorem exists_div?_powerOfTen {x : Binary64} (hx : x.units < Binary64.overflow) {exponent : Nat}
    (hpos : 0 < exponent) :
    ∃ quotient, x.div? (powerOfTen exponent) = some quotient ∧ quotient.units ≤ x.units := by
  have hten : (10 : ℚ) ≤ 10 ^ exponent := by
    calc (10 : ℚ)
        _ = 10 ^ 1 := (pow_one 10).symm
        _ ≤ 10 ^ exponent := pow_le_pow_right₀ (by norm_num) hpos
  have hpower : 2 * Binary64.one ≤ (powerOfTen exponent).units := by
    have hgreat : ((2 : Nat) : ℚ) ≤ (powerOfTen exponent).magnitude := by
      have hnear := (within_powerOfTen exponent).2
      push_cast
      linarith
    exact Nat.le_of_not_lt fun h => absurd (Binary64.units_lt_iff.1 h) (not_lt.2 hgreat)
  have hsome : 0 < (powerOfTen exponent).units :=
    Nat.lt_of_lt_of_le (Nat.mul_pos Nat.two_pos Binary64.one_pos) hpower
  let units := Binary64.roundUnits (x.units * Binary64.one) (powerOfTen exponent).units
  have hle : units ≤ x.units := by
    refine Nat.le_of_mul_le_mul_right ?_ hsome
    calc units * (powerOfTen exponent).units
        _ ≤ 2 * (x.units * Binary64.one) := Binary64.roundUnits_mul_le hsome
        _ = x.units * (2 * Binary64.one) := Nat.mul_left_comm _ _ _
        _ ≤ x.units * (powerOfTen exponent).units := Nat.mul_le_mul_left _ hpower
  refine ⟨⟨x.negative != (powerOfTen exponent).negative, units⟩, ?_, hle⟩
  rw [Binary64.div?, if_neg (Nat.pos_iff_ne_zero.1 hsome)]
  exact Binary64.ofUnits?_of_lt (Nat.lt_of_le_of_lt hle hx)

theorem overPowerOfTen?_succ (steps : Nat) (x : Binary64) (exponent : Nat) :
    overPowerOfTen? (steps + 1) x exponent =
      if x.isZero then some x
      else (x.div? (powerOfTen greatestPower)).bind fun quotient =>
        overPowerOfTen? steps quotient (exponent - greatestPower) := rfl

/-- However often a double is divided by a power of ten, there is a quotient. -/
theorem exists_overPowerOfTen? (steps : Nat) :
    ∀ {x : Binary64} {exponent : Nat}, x.units < Binary64.overflow →
      greatestPower * steps < exponent →
        ∃ quotient, overPowerOfTen? steps x exponent = some quotient := by
  induction steps with
  | zero =>
    intro x exponent hx hpos
    rw [overPowerOfTen?_zero]
    obtain ⟨quotient, hquotient, -⟩ := exists_div?_powerOfTen hx (Nat.zero_lt_of_lt hpos)
    exact ⟨quotient, hquotient⟩
  | succ steps ih =>
    intro x exponent hx hpos
    rw [overPowerOfTen?_succ]
    split
    · exact ⟨x, rfl⟩
    · obtain ⟨quotient, hquotient, hle⟩ := @exists_div?_powerOfTen x hx greatestPower (by decide)
      rw [hquotient, Option.bind_some]
      exact ih (Nat.lt_of_le_of_lt hle hx) (by rw [Nat.mul_succ] at hpos; omega)

/-- A quotient by a power of ten is never refused. -/
theorem exists_timesPowerOfTen?_of_neg {x : Binary64} (hx : x.units < Binary64.overflow)
    {power : Int} (h : power < 0) : ∃ quotient, timesPowerOfTen? x power = some quotient := by
  rw [timesPowerOfTen?, if_pos h]
  refine exists_overPowerOfTen? _ hx ?_
  unfold greatestPower
  omega

/-- A product with a power of ten is refused if it is rounded to what is too great. -/
theorem timesPowerOfTen?_eq_none_iff (x : Binary64) {exponent : Nat}
    (h : exponent ≤ greatestPower) :
    timesPowerOfTen? x exponent = none ↔
      Binary64.overflow ≤
        Binary64.roundUnits (x.units * (powerOfTen exponent).units) Binary64.one := by
  have hnonneg : ¬ (exponent : Int) < 0 := by omega
  have hle : (exponent : Int) ≤ greatestPower := by omega
  rw [timesPowerOfTen?, if_neg hnonneg, if_pos hle, Int.toNat_natCast, Binary64.mul?,
    Binary64.ofUnits?]
  split
  · next hlt => exact iff_of_false (by simp) (Nat.not_le_of_lt hlt)
  · next hle => exact iff_of_true rfl (Nat.le_of_not_lt hle)

/-- Zero is never refused. -/
theorem exists_timesPowerOfTen?_of_zero (power : Int) :
    ∃ x, timesPowerOfTen? { negative := false, units := 0 } power = some x := by
  rcases lt_or_ge power 0 with hneg | hnonneg
  · exact exists_timesPowerOfTen?_of_neg Binary64.overflow_pos hneg
  · obtain ⟨exponent, rfl⟩ := Int.eq_ofNat_of_zero_le hnonneg
    rcases Nat.lt_or_ge greatestPower exponent with hgreat | hle
    · refine ⟨{ negative := false, units := 0 }, ?_⟩
      rw [timesPowerOfTen?, if_neg (by omega), if_neg (by omega)]
      rfl
    · refine Option.ne_none_iff_exists'.1 fun hnone => ?_
      rw [timesPowerOfTen?_eq_none_iff _ hle, Nat.zero_mul] at hnone
      have hunits := @Binary64.roundUnits_mul_le 0 Binary64.one Binary64.one_pos
      rcases Nat.mul_eq_zero.1 (Nat.le_zero.1 hunits) with hzero | hzero
      · rw [hzero] at hnone
        exact Nat.not_le_of_lt Binary64.overflow_pos hnone
      · exact Nat.ne_of_gt Binary64.one_pos hzero

section Times

variable {x : Binary64} {n : Nat} (hpos : 0 < n) (hnear : Within 2 x.magnitude n)

include hpos hnear

theorem one_le_two_mul_magnitude : 1 ≤ 2 * x.magnitude :=
  (Nat.one_le_cast.2 hpos : (1 : ℚ) ≤ n).trans hnear.2

/-- The product of what is near a number with a power of ten is refused well above the greatest
double, and not well below. -/
theorem timesPowerOfTen?_of_le {exponent : Nat} (h : exponent ≤ greatestPower) :
    (timesPowerOfTen? x exponent = none → (2 : ℚ) ^ 1021 ≤ n * 10 ^ exponent) ∧
      ((2 : ℚ) ^ 1027 ≤ n * 10 ^ exponent → timesPowerOfTen? x exponent = none) := by
  have hpower := within_powerOfTen exponent
  have hten : (1 : ℚ) ≤ 10 ^ exponent := one_le_pow₀ (by norm_num)
  let product : Binary64 :=
    { negative := false
      units := Binary64.roundUnits (x.units * (powerOfTen exponent).units) Binary64.one }
  have hproduct : Within 8 product.magnitude (n * 10 ^ exponent) := by
    have hfactors := hnear.mul hpower x.magnitude_nonneg (Nat.cast_nonneg n)
      (powerOfTen exponent).magnitude_nonneg (by linarith)
    have hrounded := Binary64.within_round_product false
      (one_le_two_mul_magnitude hpos hnear) (hten.trans hpower.2)
    rw [show (8 : ℚ) = 2 * (2 * 2) by norm_num]
    exact hrounded.trans hfactors (by norm_num) (by norm_num)
  have hrefused : timesPowerOfTen? x exponent = none ↔ (2 : ℚ) ^ 1024 ≤ product.magnitude := by
    rw [timesPowerOfTen?_eq_none_iff x h, ← not_lt, Binary64.overflow_eq]
    show ¬ product.units < 2 ^ 1024 * Binary64.one ↔ _
    rw [Binary64.units_lt_iff, not_lt, Nat.cast_pow, Nat.cast_ofNat]
  have hlow : (2 : ℚ) ^ 1024 = 8 * 2 ^ 1021 := by rw [pow_add 2 3 1021]; norm_num
  have hhigh : (2 : ℚ) ^ 1027 = 8 * 2 ^ 1024 := by rw [pow_add 2 3 1024]; norm_num
  rw [hrefused]
  generalize (n : ℚ) * 10 ^ exponent = exact at hproduct
  refine ⟨fun hrefuse => ?_, fun hgreat => ?_⟩
  · rw [hlow] at hrefuse
    exact le_of_mul_le_mul_left (hrefuse.trans hproduct.1) (by norm_num)
  · rw [hhigh] at hgreat
    exact le_of_mul_le_mul_left (hgreat.trans hproduct.2) (by norm_num)

/-- A number times a power of ten is refused well above the greatest double, and not well below. -/
theorem timesPowerOfTen?_of_within (hn : n < 2 ^ 64) (hx : x.units < Binary64.overflow)
    (power : Int) :
    (timesPowerOfTen? x power = none → (2 : ℚ) ^ 1021 ≤ n * 10 ^ power) ∧
      ((2 : ℚ) ^ 1027 ≤ n * 10 ^ power → timesPowerOfTen? x power = none) := by
  have hone : (1 : ℚ) ≤ n := Nat.one_le_cast.2 hpos
  rcases lt_or_ge power 0 with hneg | hnonneg
  · -- A quotient is never refused, nor is it great.
    obtain ⟨quotient, hquotient⟩ := exists_timesPowerOfTen?_of_neg hx hneg
    refine ⟨fun h => ?_, fun h => absurd h (not_le.2 ?_)⟩
    · rw [hquotient] at h
      cases h
    · have hsmall : (10 : ℚ) ^ power ≤ 1 := zpow_le_one_of_nonpos₀ (by norm_num) hneg.le
      have hbits : (n : ℚ) < 2 ^ 64 := by exact_mod_cast hn
      calc (n : ℚ) * 10 ^ power
          _ ≤ n * 1 := mul_le_mul_of_nonneg_left hsmall (Nat.cast_nonneg n)
          _ < 2 ^ 64 := by rwa [mul_one]
          _ ≤ 2 ^ 1027 := pow_le_pow_right₀ (by norm_num) (by decide)
  · obtain ⟨exponent, rfl⟩ := Int.eq_ofNat_of_zero_le hnonneg
    rw [zpow_natCast]
    rcases Nat.lt_or_ge greatestPower exponent with hgreat | hle
    · have hsome : x.isZero = false := by
        have hmagnitude := one_le_two_mul_magnitude hpos hnear
        refine beq_eq_false_iff_ne.2 fun hzero => ?_
        rw [Binary64.magnitude, hzero, Nat.cast_zero, zero_div, mul_zero] at hmagnitude
        exact absurd hmagnitude (not_le.2 zero_lt_one)
      have hrefused : timesPowerOfTen? x (exponent : Int) = none := by
        rw [timesPowerOfTen?, if_neg (by omega), if_neg (by omega), hsome]
        rfl
      refine ⟨fun _ => ?_, fun _ => hrefused⟩
      have hdecades : (2 : ℚ) ^ 1021 ≤ 10 ^ greatestPower := by
        exact_mod_cast (by decide +kernel : 2 ^ 1021 ≤ 10 ^ greatestPower)
      calc (2 : ℚ) ^ 1021
          _ ≤ 10 ^ greatestPower := hdecades
          _ ≤ 10 ^ exponent := pow_le_pow_right₀ (by norm_num) hgreat.le
          _ ≤ n * 10 ^ exponent := le_mul_of_one_le_left (by positivity) hone
    · exact timesPowerOfTen?_of_le hpos hnear hle

end Times

/-! ## Digits that are left out -/

theorem digitValue_le_nine {c : Char} (h : c.isDigit = true) : digitValue c ≤ 9 := by
  have hrange := Char.isDigit_iff_toNat.1 h
  have hzero : '0'.toNat = 48 := rfl
  have hnine : '9'.toNat = 57 := rfl
  unfold digitValue
  omega

theorem digitsAfter_lt {digits : List Char} (h : ∀ c ∈ digits, c.isDigit = true) :
    ∀ start, digitsAfter start digits < (start + 1) * 10 ^ digits.length := by
  induction digits with
  | nil => simp [digitsAfter]
  | cons digit rest ih =>
    intro start
    rw [List.forall_mem_cons] at h
    have hdigit := digitValue_le_nine h.1
    rw [digitsAfter_cons, List.length_cons]
    calc digitsAfter (start * 10 + digitValue digit) rest
        _ < (start * 10 + digitValue digit + 1) * 10 ^ rest.length := ih h.2 _
        _ ≤ (start + 1) * 10 * 10 ^ rest.length := Nat.mul_le_mul_right _ (by omega)
        _ = (start + 1) * 10 ^ (rest.length + 1) := by rw [Nat.pow_succ]; ring

theorem le_digitsAfter_mul (start : Nat) (digits : List Char) :
    start * 10 ^ digits.length ≤ digitsAfter start digits := by
  rw [digitsAfter_eq]
  exact Nat.le_add_right _ _

/-- What is collected of some digits behind a number: so many of them are taken, and the others can
add less than one to the last of these. -/
structure Collected (start : Nat) (digits : List Char) (found : Significand) (taken : Nat) : Prop
    where
  length_eq : taken + found.left = digits.length
  start_le : start * 10 ^ taken ≤ found.value
  lt_start : found.value < (start + 1) * 10 ^ taken
  value_le : found.value * 10 ^ found.left ≤ digitsAfter start digits
  lt_value : digitsAfter start digits < (found.value + 1) * 10 ^ found.left
  pos : 0 < found.left → 0 < found.value
  lt_word : start < 2 ^ 64 → found.value < 2 ^ 64

theorem exists_collected {digits : List Char} (h : ∀ c ∈ digits, c.isDigit = true) :
    ∀ start, ∃ taken, Collected start digits (Significand.collect start digits) taken := by
  induction digits with
  | nil =>
    refine fun start => ⟨0, rfl, ?_, ?_, ?_, ?_, ?_, id⟩
    all_goals simp [Significand.collect, digitsAfter]
  | cons digit rest ih =>
    intro start
    have hdigits := h
    rw [List.forall_mem_cons] at h
    have hdigit := digitValue_le_nine h.1
    rw [Significand.collect]
    split
    · next hfits =>
      obtain ⟨taken, hcollected⟩ := ih h.2 (start * 10 + digitValue digit)
      refine ⟨taken + 1, ?_, ?_, ?_, ?_, ?_, hcollected.pos, fun _ => hcollected.lt_word hfits⟩
      · rw [List.length_cons, ← hcollected.length_eq, Nat.add_right_comm]
      · calc start * 10 ^ (taken + 1)
            _ = start * 10 * 10 ^ taken := by rw [Nat.pow_succ]; ring
            _ ≤ (start * 10 + digitValue digit) * 10 ^ taken :=
              Nat.mul_le_mul_right _ (Nat.le_add_right _ _)
            _ ≤ _ := hcollected.start_le
      · calc (Significand.collect (start * 10 + digitValue digit) rest).value
            _ < (start * 10 + digitValue digit + 1) * 10 ^ taken := hcollected.lt_start
            _ ≤ (start + 1) * 10 * 10 ^ taken := Nat.mul_le_mul_right _ (by omega)
            _ = (start + 1) * 10 ^ (taken + 1) := by rw [Nat.pow_succ]; ring
      · rw [digitsAfter_cons]
        exact hcollected.value_le
      · rw [digitsAfter_cons]
        exact hcollected.lt_value
    · next hfull =>
      refine ⟨0, Nat.zero_add _, ?_, ?_, le_digitsAfter_mul start (digit :: rest),
        digitsAfter_lt hdigits start, fun _ => ?_, id⟩
      · simp
      · simp
      · show 0 < start
        omega

section Collected

variable {start taken : Nat} {digits : List Char} {found : Significand}
  (h : Collected start digits found taken)

include h

/-- If nothing is left out, all that the digits come to is collected. -/
theorem Collected.eq_value (hall : found.left = 0) : digitsAfter start digits = found.value := by
  have hlow := h.value_le
  have hhigh := h.lt_value
  rw [hall, Nat.pow_zero, Nat.mul_one] at hlow hhigh
  omega

/-- Otherwise the digits left out are behind others, and add less than those come to. -/
theorem Collected.lt_double (hleft : 0 < found.left) :
    digitsAfter start digits < 2 * (found.value * 10 ^ found.left) := by
  have hpos := h.pos hleft
  calc digitsAfter start digits
      _ < (found.value + 1) * 10 ^ found.left := h.lt_value
      _ ≤ 2 * found.value * 10 ^ found.left := Nat.mul_le_mul_right _ (by omega)
      _ = 2 * (found.value * 10 ^ found.left) := Nat.mul_assoc _ _ _

/-- With zeros for the digits left out the digits come to at least one half. -/
theorem Collected.within :
    Within 2 (found.value * 10 ^ found.left : ℚ) (digitsAfter start digits) := by
  have hlow : (found.value * 10 ^ found.left : ℚ) ≤ digitsAfter start digits := by
    exact_mod_cast h.value_le
  have hnonneg : (0 : ℚ) ≤ digitsAfter start digits := Nat.cast_nonneg _
  refine ⟨by linarith, ?_⟩
  rcases Nat.eq_zero_or_pos found.left with hzero | hleft
  · rw [h.eq_value hzero, hzero]
    linarith
  · exact_mod_cast (h.lt_double hleft).le

/-- The digits taken add less than one to the number before them, and so less than that is. -/
theorem Collected.bounds (hpos : 0 < start) :
    (start : ℚ) ≤ found.value / 10 ^ taken ∧ (found.value / 10 ^ taken : ℚ) ≤ 2 * start := by
  have hten : (0 : ℚ) < 10 ^ taken := by positivity
  have hlow : (start * 10 ^ taken : ℚ) ≤ found.value := by exact_mod_cast h.start_le
  have hhigh : (found.value : ℚ) ≤ 2 * start * 10 ^ taken := by
    have hlt := h.lt_start
    have hle : (start + 1) * 10 ^ taken ≤ 2 * start * 10 ^ taken :=
      Nat.mul_le_mul_right _ (by omega)
    exact_mod_cast hlt.le.trans hle
  exact ⟨(le_div_iff₀ hten).2 hlow, (div_le_iff₀ hten).2 hhigh⟩

end Collected

/-! ## Digits before and behind the point -/

section Parts

variable {start taken taken' : Nat} {digits others : List Char} {whole all : Significand}
  (hwhole : Collected start digits whole taken) (hall : Collected whole.value others all taken')

include hwhole hall

/-- If all digits before the point are collected, those left out are the last of all. -/
theorem Collected.within_of_all (hzero : whole.left = 0) :
    Within 2 (all.value * 10 ^ ((whole.left : Int) - taken') : ℚ)
      (digitsAfter (digitsAfter start digits) others / 10 ^ others.length) := by
  have hpower : (10 : ℚ) ^ ((whole.left : Int) - taken') =
      10 ^ all.left * (10 ^ others.length)⁻¹ := by
    have hne : (10 : ℚ) ≠ 0 := by norm_num
    rw [hzero, ← hall.length_eq, pow_add, Nat.cast_zero, zero_sub, zpow_neg, zpow_natCast,
      mul_inv, mul_left_comm, mul_inv_cancel₀ (pow_ne_zero _ hne), mul_one]
  rw [hwhole.eq_value hzero, hpower, ← mul_assoc, div_eq_mul_inv]
  exact hall.within.mul_right (by positivity)

/-- If not, then what is collected lies between what that is before the point and its double, and so
does what all digits come to. -/
theorem Collected.within_of_some (hothers : ∀ c ∈ others, c.isDigit = true)
    (hleft : 0 < whole.left) :
    Within 2 (all.value * 10 ^ ((whole.left : Int) - taken') : ℚ)
      (digitsAfter (digitsAfter start digits) others / 10 ^ others.length) := by
  obtain ⟨hlow, hhigh⟩ := hall.bounds (hwhole.pos hleft)
  have hpower : (10 : ℚ) ^ ((whole.left : Int) - taken') = 10 ^ whole.left / 10 ^ taken' := by
    rw [zpow_sub₀ (by norm_num), zpow_natCast, zpow_natCast]
  have hten : (0 : ℚ) < 10 ^ whole.left := by positivity
  have hunit : (0 : ℚ) < 10 ^ others.length := by positivity
  rw [hpower]
  apply Within.of_bounds (whole.value * 10 ^ whole.left)
  · rw [mul_div_left_comm, mul_comm (whole.value : ℚ), mul_left_comm]
    exact ⟨mul_le_mul_of_nonneg_left hlow hten.le, mul_le_mul_of_nonneg_left hhigh hten.le⟩
  · rw [le_div_iff₀ hunit, div_le_iff₀ hunit]
    have hleast : whole.value * 10 ^ whole.left * 10 ^ others.length ≤
        digitsAfter (digitsAfter start digits) others :=
      (Nat.mul_le_mul_right _ hwhole.value_le).trans (le_digitsAfter_mul _ _)
    have hmost : digitsAfter (digitsAfter start digits) others ≤
        2 * (whole.value * 10 ^ whole.left) * 10 ^ others.length :=
      (digitsAfter_lt hothers _).le.trans (Nat.mul_le_mul_right _ (hwhole.lt_double hleft))
    exact ⟨by exact_mod_cast hleast, by exact_mod_cast hmost⟩

end Parts

namespace Literal

/-- The parts of a literal are digits. -/
structure IsSpelled (literal : Literal) : Prop where
  whole : ∀ c ∈ literal.whole, c.isDigit = true
  fraction : ∀ c ∈ literal.fractionDigits, c.isDigit = true

variable {literal : Literal}

/-- Up to a factor of two, the digits that are collected are those of the literal. -/
theorem within_scaled (h : literal.IsSpelled) :
    Within 2 (literal.scaled.1 * 10 ^ literal.scaled.2 : ℚ)
        (literal.toDecimal.digits / 10 ^ literal.fractionDigits.length) ∧
      literal.scaled.1 < 2 ^ 64 ∧
      -(literal.fractionDigits.length : Int) ≤ literal.scaled.2 ∧
      literal.scaled.2 ≤ literal.whole.length := by
  obtain ⟨taken, hwhole⟩ := exists_collected h.whole 0
  generalize hfound : Significand.collect 0 literal.whole = whole at hwhole
  obtain ⟨taken', hall⟩ := exists_collected h.fraction whole.value
  generalize hfound' : Significand.collect whole.value literal.fractionDigits = all at hall
  have hlength := hwhole.length_eq
  have hlength' := hall.length_eq
  have hscaled : literal.scaled = (all.value, (whole.left : Int) - taken') := by
    have htaken : literal.fractionDigits.length - all.left = taken' := by omega
    rw [← htaken, ← hfound', ← hfound]
    rfl
  have hdigits : literal.toDecimal.digits =
      digitsAfter (digitsAfter 0 literal.whole) literal.fractionDigits :=
    digitsValue_append_eq_after _ _
  rw [hscaled]
  refine ⟨?_, hall.lt_word (hwhole.lt_word (by decide)), by dsimp only; omega,
    by dsimp only; omega⟩
  rw [hdigits]
  rcases Nat.eq_zero_or_pos whole.left with hzero | hleft
  · exact hwhole.within_of_all hall hzero
  · exact hwhole.within_of_some hall h.fraction hleft

/-- The size of a literal is that of its digits, scaled by the point and the exponent. -/
theorem abs_value (literal : Literal) :
    |literal.value| =
      literal.toDecimal.digits / 10 ^ literal.fractionDigits.length * 10 ^ literal.power := by
  have hnonneg : 0 ≤ literal.toDecimal.value :=
    mul_nonneg (Nat.cast_nonneg _) (zpow_nonneg (by norm_num) _)
  have habs : |literal.value| = literal.toDecimal.value := by
    rw [value_eq]
    split
    · rw [abs_neg, abs_of_nonneg hnonneg]
    · exact abs_of_nonneg hnonneg
  rw [habs, Decimal.value, toDecimal, zpow_sub₀ (by norm_num), zpow_natCast]
  ring

/-- Up to a factor of two, the number is what is collected times a power of ten. -/
theorem within_abs_value (h : literal.IsSpelled) :
    Within 2 (literal.scaled.1 * 10 ^ (literal.scaled.2 + literal.power) : ℚ) |literal.value| := by
  have hten : (0 : ℚ) ≤ 10 ^ literal.power := zpow_nonneg (by norm_num) _
  have hnear := (within_scaled h).1.mul_right hten
  rwa [mul_assoc, ← zpow_add₀ (by norm_num), ← abs_value] at hnear

/-- The digits of an exponent that is too great for a word are not read to the end. -/
theorem boundedExponent_of_ge {digits : List Char} :
    ∀ {start : Nat}, start < 0x80000000 → 0x80000000 ≤ digitsAfter start digits →
      ∃ left, boundedExponent start digits = .error left := by
  induction digits with
  | nil => exact fun hlt hge => absurd hlt (Nat.not_lt_of_le hge)
  | cons digit rest ih =>
    intro start hlt hge
    rw [digitsAfter_cons] at hge
    rw [boundedExponent]
    split
    · next hnext => exact ih hnext hge
    · exact ⟨_, rfl⟩

/-- A literal whose exponent is too great for a word is read as zero, or refused. -/
theorem real?_of_le_power (h : 0x80000000 ≤ literal.power.natAbs) :
    literal.real? =
      if literal.power < 0 ∨ literal.scaled.1 = 0 then
        some (literal.signed { negative := false, units := 0 })
      else none := by
  unfold real?
  generalize literal.scaled = scaled
  obtain ⟨significand, power⟩ := scaled
  dsimp only
  cases hpart : literal.exponent with
  | none =>
    rw [Literal.power, hpart] at h
    cases h
  | some part =>
    have hvalue : literal.power =
        if part.negative then -(digitsValue part.digits : Int) else digitsValue part.digits := by
      rw [Literal.power, hpart]
    have hgreat : 0x80000000 ≤ digitsAfter 0 part.digits := by
      show 0x80000000 ≤ digitsValue part.digits
      split at hvalue <;> omega
    obtain ⟨left, hleft⟩ := boundedExponent_of_ge (by decide) hgreat
    have hnegative : literal.power < 0 ↔ part.negative = true := by
      rw [hvalue]
      split
      · next hsign => exact iff_of_true (by omega) hsign
      · next hsign => exact iff_of_false (by omega) hsign
    dsimp only
    rw [hleft]
    simp only [hnegative, Bool.or_eq_true, beq_iff_eq]
    split <;> rfl

/-- A literal whose digits are zeros is never refused. -/
theorem exists_real?_of_zero (h : literal.scaled.1 = 0) : ∃ x, literal.real? = some x := by
  rcases Nat.lt_or_ge literal.power.natAbs 0x80000000 with hlt | hge
  · let zero : Binary64 := { negative := false, units := 0 }
    have hofNat : Binary64.ofNat? 0 = some zero := by
      rw [ofNat?_of_lt (by decide), Nat.zero_mul]
    obtain ⟨x, hx⟩ := exists_timesPowerOfTen?_of_zero (literal.scaled.2 + literal.power)
    rw [real?_of_power_lt hlt, h, hofNat, Option.bind_some, hx]
    exact ⟨_, rfl⟩
  · rw [real?_of_le_power hge, if_pos (.inr h)]
    exact ⟨_, rfl⟩

section Bounds

variable (h : literal.IsSpelled) (hpos : 0 < literal.scaled.1)

include h hpos

/-- With an exponent that fits a word, a literal is refused if it is well above the greatest double,
and not if it is well below. -/
theorem real?_bounds_of_power_lt (hlt : literal.power.natAbs < 0x80000000) :
    (literal.real? = none → 10 ^ 307 ≤ |literal.value|) ∧
      (10 ^ 310 ≤ |literal.value| → literal.real? = none) := by
  have hnear := within_abs_value h
  have hword := (within_scaled h).2.1
  obtain ⟨x, hofNat, hx, hmagnitude⟩ := Binary64.exists_ofNat? hpos hword
  obtain ⟨hleast, hmost⟩ := timesPowerOfTen?_of_within hpos hmagnitude hword hx
    (literal.scaled.2 + literal.power)
  have hrefused : literal.real? = none ↔
      timesPowerOfTen? x (literal.scaled.2 + literal.power) = none := by
    rw [real?_of_power_lt hlt, hofNat, Option.bind_some, Option.map_eq_none_iff]
  have hlowest : (2 : ℚ) * 10 ^ 307 ≤ 2 ^ 1021 := by
    exact_mod_cast (by decide +kernel : 2 * 10 ^ 307 ≤ 2 ^ 1021)
  have hhighest : (2 : ℚ) * 2 ^ 1027 ≤ 10 ^ 310 := by
    exact_mod_cast (by decide +kernel : 2 * 2 ^ 1027 ≤ 10 ^ 310)
  rw [hrefused]
  refine ⟨fun hnone => ?_, fun hgreat => hmost ?_⟩
  · exact le_of_mul_le_mul_left (hlowest.trans ((hleast hnone).trans hnear.1)) two_pos
  · exact le_of_mul_le_mul_left (hhighest.trans (hgreat.trans hnear.2)) two_pos

/-- With a greater exponent the same holds, since the digits are too few to make up for that. -/
theorem real?_bounds_of_le_power
    (hlength : literal.whole.length + literal.fractionDigits.length < 2 ^ 30)
    (hge : 0x80000000 ≤ literal.power.natAbs) :
    (literal.real? = none → 10 ^ 307 ≤ |literal.value|) ∧
      (10 ^ 310 ≤ |literal.value| → literal.real? = none) := by
  have hnear := within_abs_value h
  obtain ⟨-, hword, hlow, hhigh⟩ := within_scaled h
  rw [real?_of_le_power hge]
  rcases lt_or_ge literal.power 0 with hneg | hnonneg
  · -- It is read as zero, and is no great number.
    rw [if_pos (.inl hneg)]
    refine ⟨fun hnone => absurd hnone (Option.some_ne_none _),
      fun hgreat => absurd (hgreat.trans hnear.2) (not_le.2 ?_)⟩
    have hsmall : (10 : ℚ) ^ (literal.scaled.2 + literal.power) ≤ 1 :=
      zpow_le_one_of_nonpos₀ (by norm_num) (by omega)
    have hbits : (literal.scaled.1 : ℚ) < 2 ^ 64 := by exact_mod_cast hword
    calc 2 * ((literal.scaled.1 : ℚ) * 10 ^ (literal.scaled.2 + literal.power))
        _ ≤ 2 * (literal.scaled.1 * 1) := by gcongr
        _ < 2 * 2 ^ 64 := by linarith
        _ ≤ 10 ^ 20 := by norm_num
        _ ≤ 10 ^ 310 := pow_le_pow_right₀ (by norm_num) (by decide)
  · -- It is refused, and is a great number.
    rw [if_neg (by omega)]
    refine ⟨fun _ => ?_, fun _ => rfl⟩
    have hone : (1 : ℚ) ≤ literal.scaled.1 := Nat.one_le_cast.2 hpos
    have hten : (0 : ℚ) ≤ 10 ^ (literal.scaled.2 + literal.power) :=
      zpow_nonneg (by norm_num) _
    apply le_of_mul_le_mul_left _ (two_pos : (0 : ℚ) < 2)
    calc (2 : ℚ) * 10 ^ 307
        _ ≤ 10 * 10 ^ 307 := mul_le_mul_of_nonneg_right (by norm_num) (by positivity)
        _ = 10 ^ (308 : Int) := (pow_succ' (10 : ℚ) 307).symm
        _ ≤ 10 ^ (literal.scaled.2 + literal.power) :=
          zpow_le_zpow_right₀ (by norm_num) (by omega)
        _ ≤ literal.scaled.1 * 10 ^ (literal.scaled.2 + literal.power) :=
          le_mul_of_one_le_left hten hone
        _ ≤ 2 * |literal.value| := hnear.1

end Bounds

/-- A literal is refused if it is well above the greatest double, and not if it is well below. -/
theorem real?_eq_none_bounds (h : literal.IsSpelled)
    (hlength : literal.whole.length + literal.fractionDigits.length < 2 ^ 30) :
    (literal.real? = none → 10 ^ 307 ≤ |literal.value|) ∧
      (10 ^ 310 ≤ |literal.value| → literal.real? = none) := by
  rcases Nat.eq_zero_or_pos literal.scaled.1 with hzero | hpos
  · -- Then the literal is zero.
    obtain ⟨x, hx⟩ := exists_real?_of_zero hzero
    have hvalue : |literal.value| ≤ 0 := by
      have hnear := (within_abs_value h).2
      rwa [hzero, Nat.cast_zero, zero_mul, mul_zero] at hnear
    rw [hx]
    exact ⟨fun hnone => absurd hnone (Option.some_ne_none x),
      fun hgreat => absurd (hgreat.trans hvalue) (not_le.2 (pow_pos (by norm_num) 310))⟩
  · rcases Nat.lt_or_ge literal.power.natAbs 0x80000000 with hlt | hge
    · exact real?_bounds_of_power_lt h hpos hlt
    · exact real?_bounds_of_le_power h hpos hlength hge

/-! ## Exact integers -/

theorem ofInt?_eq_some_iff {value : Int} {n : Integer} :
    Integer.ofInt? value = some n ↔ value = n.value := by
  constructor
  · intro h
    unfold Integer.ofInt? at h
    split at h
    · cases h
      rfl
    · cases h
  · rintro rfl
    exact Integer.ofInt?_value n

/-- A literal denotes an exact integer if it has that value, is written without point and exponent,
and is not minus zero. -/
theorem integer?_eq_some_iff {n : Integer} :
    literal.integer? = some n ↔
      literal.fraction = none ∧ literal.exponent = none ∧ literal.value = n.value ∧
        (literal.negative = true → n.value ≠ 0) := by
  obtain ⟨negative, whole, fraction, exponent⟩ := literal
  cases fraction with
  | some digits => simp [integer?]
  | none =>
    cases exponent with
    | some part => simp [integer?]
    | none =>
      have hvalue : Literal.value { negative, whole, fraction := none, exponent := none } =
          ((if negative then -(digitsValue whole : Int) else digitsValue whole : Int) : ℚ) := by
        cases negative <;> simp [value, power, fractionDigits, digitsValue]
      rw [hvalue, Int.cast_inj]
      cases negative with
      | false => simp [integer?, ofInt?_eq_some_iff]
      | true =>
        by_cases hzero : digitsValue whole = 0
        · simp only [integer?, hzero, if_pos]
          refine iff_of_false (Option.some_ne_none n).symm ?_
          rintro ⟨-, -, hn, hne⟩
          exact hne trivial (by simpa using hn.symm)
        · simp only [integer?, hzero, if_false, if_true, ofInt?_eq_some_iff, true_and]
          refine ⟨fun hn => ⟨hn, fun _ => by omega⟩, fun h => h.1⟩

/-! ## Literals of the grammar -/

theorem isDigit_of_isWhole {whole : List Char} (h : Grammar.IsWhole whole) :
    ∀ c ∈ whole, c.isDigit = true := by
  cases h with
  | zero => simp [Char.isDigit]
  | other hfirst hne hothers => exact List.forall_mem_cons.2 ⟨hfirst, hothers⟩

theorem isDigit_of_isFraction {fraction : Option (List Char)} {front : List Char}
    (h : Grammar.IsFraction fraction front) :
    (∀ c ∈ fraction.getD [], c.isDigit = true) ∧ (fraction.getD []).length ≤ front.length := by
  cases h with
  | absent => exact ⟨List.forall_mem_nil _, Nat.le_refl _⟩
  | present hdigits => exact ⟨hdigits.2, Nat.le_succ _⟩

/-- What is spelled by the grammar is digits, no more of them than characters. -/
theorem isSpelled_of_isNumber {text : List Char} (h : Grammar.IsNumber literal text) :
    literal.IsSpelled ∧
      literal.whole.length + literal.fractionDigits.length ≤ text.length := by
  cases h with
  | positive hwhole hfraction hexponent =>
    obtain ⟨hdigits, hlength⟩ := isDigit_of_isFraction hfraction
    refine ⟨⟨isDigit_of_isWhole hwhole, hdigits⟩, ?_⟩
    simp only [fractionDigits, List.length_append]
    omega
  | negative hwhole hfraction hexponent =>
    obtain ⟨hdigits, hlength⟩ := isDigit_of_isFraction hfraction
    refine ⟨⟨isDigit_of_isWhole hwhole, hdigits⟩, ?_⟩
    simp only [fractionDigits, List.length_append, List.length_cons]
    omega

/-- Numbers that fit a word are far below the greatest double. -/
theorem abs_value_lt_of_integer? {n : Integer} (h : literal.integer? = some n) :
    |literal.value| < 10 ^ 310 := by
  have hlow : (-2 ^ 63 : ℚ) ≤ n.value := by exact_mod_cast n.lower
  have hhigh : (n.value : ℚ) < 2 ^ 64 := by exact_mod_cast n.upper
  rw [value_of_integer? h]
  calc |(n.value : ℚ)|
      _ ≤ 2 ^ 64 := abs_le.2 ⟨by linarith, hhigh.le⟩
      _ < 10 ^ 20 := by norm_num
      _ ≤ 10 ^ 310 := pow_le_pow_right₀ (by norm_num) (by decide)

/-- **Which numbers are refused.**  A literal denotes an integer exactly if it is written without
point and exponent, has a value that fits a word, and is not minus zero; every other literal denotes
a double, or nothing.  For a short one that is the double nearest to its value.  And unless it is
immensely long it is refused if its value is well above the greatest double, and only if it is not
well below. -/
theorem number?_decided {text : List Char} (h : Grammar.IsNumber literal text) :
    (∀ n, literal.number? = some (.integer n) ↔
      literal.fraction = none ∧ literal.exponent = none ∧ literal.value = n.value ∧
        (literal.negative = true → n.value ≠ 0)) ∧
    (literal.IsShort → (∀ n, literal.number? ≠ some (.integer n)) →
      literal.number? =
        some (.real { negative := literal.negative, units := literal.toDecimal.nearest })) ∧
    (text.length < 2 ^ 30 →
      (literal.number? = none → 10 ^ 307 ≤ |literal.value|) ∧
        (10 ^ 310 ≤ |literal.value| → literal.number? = none)) := by
  obtain ⟨hspelled, hlength⟩ := isSpelled_of_isNumber h
  have hinteger (n : Integer) :
      literal.number? = some (.integer n) ↔ literal.integer? = some n := by
    rw [number?]
    cases literal.integer? <;> simp
  refine ⟨fun n => (hinteger n).trans integer?_eq_some_iff, fun hshort hnone => ?_,
    fun hfew => ?_⟩
  · have hreal : literal.integer? = none :=
      Option.eq_none_iff_forall_ne_some.2 fun n hn => hnone n ((hinteger n).2 hn)
    rw [number?, hreal, real?_of_isShort hshort]
    rfl
  · obtain ⟨hleast, hmost⟩ := real?_eq_none_bounds hspelled (Nat.lt_of_le_of_lt hlength hfew)
    rw [number?]
    cases hn : literal.integer? with
    | some n =>
      exact ⟨fun hnone => absurd hnone (Option.some_ne_none _),
        fun hgreat => absurd hgreat (not_le.2 (abs_value_lt_of_integer? hn))⟩
    | none =>
      simp only [Option.map_eq_none_iff]
      exact ⟨hleast, hmost⟩

/-- A short text can denote what is too great. -/
example :
    number? { negative := false, whole := ['1'], fraction := none
              exponent := some { negative := false, digits := ['4', '0', '0'] } } = none := by
  decide +kernel

end Literal

end Json

end JobImages
