import JobImages.Proofs.Json.NumberLiteral

/-!
# Short numbers

A literal is read as a double in two roundings, of its digits and of their product with a power of
ten.  If the literal has at most fifteen digits, and the power of ten is one that is a double, only
the last of these roundings changes anything, so that the result is the double nearest to the
literal.  The shortest decimal of that is the literal's own.

## Main definitions

* `Literal.IsShort` — at most fifteen digits, and a power of ten that is a double.

## Main results

* `Literal.real?_of_isShort` — a short literal is read as the nearest double;
* `Literal.value_of_isShort` — and the literal is the shortest decimal of that.
-/

namespace JobImages.Json

open Grammar

/-! ## Digits that fit -/

/-- Digits of a number below 2⁶⁴ are all collected. -/
theorem collect_of_lt {digits : List Char} :
    ∀ {start : Nat}, digitsAfter start digits < 0x10000000000000000 →
      Significand.collect start digits = { value := digitsAfter start digits, left := 0 } := by
  induction digits with
  | nil => exact fun _ => rfl
  | cons digit rest ih =>
    intro start h
    rw [digitsAfter_cons] at h ⊢
    rw [Significand.collect, if_pos (Nat.lt_of_le_of_lt (le_digitsAfter _ rest) h), ih h]

/-- Digits of a number below 2³¹ are all read. -/
theorem boundedExponent_of_lt {digits : List Char} :
    ∀ {start : Nat}, digitsAfter start digits < 0x80000000 →
      boundedExponent start digits = .ok (digitsAfter start digits) := by
  induction digits with
  | nil => exact fun _ => rfl
  | cons digit rest ih =>
    intro start h
    rw [digitsAfter_cons] at h ⊢
    rw [boundedExponent, if_pos (Nat.lt_of_le_of_lt (le_digitsAfter _ rest) h), ih h]

namespace Literal

variable {literal : Literal}

theorem scaled_of_lt (h : literal.toDecimal.digits < 0x10000000000000000) :
    literal.scaled = (literal.toDecimal.digits, -(literal.fractionDigits.length : Int)) := by
  have hall : literal.toDecimal.digits =
      digitsAfter (digitsValue literal.whole) literal.fractionDigits :=
    digitsValue_append_eq_after _ _
  rw [hall] at h
  have hwhole : Significand.collect 0 literal.whole =
      { value := digitsValue literal.whole, left := 0 } :=
    collect_of_lt (Nat.lt_of_le_of_lt (le_digitsAfter _ literal.fractionDigits) h)
  have hfraction := collect_of_lt h
  unfold scaled
  dsimp only
  rw [hwhole, ← fractionDigits, hfraction, hall]
  simp

/-- A literal whose exponent fits a word is read in two roundings. -/
theorem real?_of_power_lt (h : literal.power.natAbs < 0x80000000) :
    literal.real? =
      ((Binary64.ofNat? literal.scaled.1).bind fun x =>
        timesPowerOfTen? x (literal.scaled.2 + literal.power)).map literal.signed := by
  unfold real?
  generalize literal.scaled = scaled
  obtain ⟨significand, power⟩ := scaled
  dsimp only
  cases hpart : literal.exponent with
  | none =>
    have hpower : power + literal.power = power := by rw [Literal.power, hpart, add_zero]
    rw [hpower]
    cases Binary64.ofNat? significand <;> rfl
  | some part =>
    have hvalue : literal.power =
        if part.negative then -(digitsValue part.digits : Int) else digitsValue part.digits := by
      rw [Literal.power, hpart]
    have hread : boundedExponent 0 part.digits = .ok (digitsValue part.digits) := by
      refine boundedExponent_of_lt ?_
      show digitsValue part.digits < _
      split at hvalue <;> omega
    have hsum : power + literal.power =
        if part.negative then power - digitsValue part.digits
        else power + digitsValue part.digits := by
      rw [hvalue]
      split <;> omega
    dsimp only
    rw [hread, hsum]
    cases Binary64.ofNat? significand <;> rfl

/-- If all digits can be held, it is read as its decimal. -/
theorem real?_eq (hdigits : literal.toDecimal.digits < 0x10000000000000000)
    (hpower : literal.power.natAbs < 0x80000000) :
    literal.real? =
      ((Binary64.ofNat? literal.toDecimal.digits).bind fun x =>
        timesPowerOfTen? x literal.toDecimal.exponent).map literal.signed := by
  have hexponent : -(literal.fractionDigits.length : Int) + literal.power =
      literal.toDecimal.exponent := Int.add_comm _ _
  rw [real?_of_power_lt hpower, scaled_of_lt hdigits, hexponent]

end Literal

/-! ## Powers of ten that are doubles -/

theorem units_powerOfTen {exponent : Nat} (h : exponent ≤ 22) :
    (powerOfTen exponent).units = 10 ^ exponent * Binary64.one := by
  have hodd : 5 ^ exponent < 2 ^ 53 :=
    calc 5 ^ exponent
        _ ≤ 5 ^ 22 := Nat.pow_le_pow_right (by decide) h
        _ < 2 ^ 53 := by decide
  obtain ⟨k, hk⟩ := Binary64.exists_one_eq
  have hten : 10 ^ exponent * Binary64.one = 5 ^ exponent * 2 ^ (exponent + k) := by
    rw [hk, Nat.pow_add, ← Nat.mul_assoc, ← Nat.mul_pow]
  have hexact := Binary64.roundUnits_of_exact (k := exponent + k) hodd Nat.one_pos
  rw [← hten, Nat.mul_one] at hexact
  exact hexact

theorem ofNat?_of_lt {n : Nat} (h : n < 2 ^ 53) :
    Binary64.ofNat? n = some { negative := false, units := n * Binary64.one } := by
  obtain ⟨k, hk⟩ := Binary64.exists_one_eq
  have hexact := Binary64.roundUnits_of_exact (k := k) h Nat.one_pos
  rw [Nat.mul_one, ← hk] at hexact
  have hfinite : n * Binary64.one < Binary64.overflow := by
    have hoverflow : 2 ^ 53 * Binary64.one < Binary64.overflow := by decide +kernel
    exact Nat.lt_trans (Nat.mul_lt_mul_of_pos_right h Binary64.one_pos) hoverflow
  unfold Binary64.ofNat? Binary64.ofUnits?
  dsimp only
  rw [hexact, if_pos hfinite]

theorem nearest_lt_overflow {d : Decimal} (hfew : d.digits < 10 ^ 15) (hhigh : d.exponent ≤ 22) :
    d.nearest < Binary64.overflow := by
  have hoverflow : 2 * (10 ^ 15 * 10 ^ 22 * Binary64.one) < Binary64.overflow := by decide +kernel
  have hpower : 10 ^ d.exponent.toNat ≤ 10 ^ 22 := Nat.pow_le_pow_right (by decide) (by omega)
  have hscale : 0 < 10 ^ (-d.exponent).toNat := Nat.pow_pos (by decide)
  calc d.nearest
      _ ≤ d.nearest * 10 ^ (-d.exponent).toNat := Nat.le_mul_of_pos_right _ hscale
      _ ≤ 2 * (d.digits * 10 ^ d.exponent.toNat * Binary64.one) :=
        Binary64.roundUnits_mul_le hscale
      _ ≤ 2 * (10 ^ 15 * 10 ^ 22 * Binary64.one) :=
        Nat.mul_le_mul_left 2 (Nat.mul_le_mul_right _ (Nat.mul_le_mul hfew.le hpower))
      _ < Binary64.overflow := hoverflow

theorem overPowerOfTen?_zero (x : Binary64) (exponent : Nat) :
    overPowerOfTen? 0 x exponent = x.div? (powerOfTen exponent) := rfl

theorem negative_powerOfTen (exponent : Nat) : (powerOfTen exponent).negative = false := rfl

/-- The product with a power of ten that is a double, or the quotient by one, is rounded once. -/
theorem timesPowerOfTen?_of_exact {d : Decimal} (hfew : d.digits < 10 ^ 15)
    (hlow : -22 ≤ d.exponent) (hhigh : d.exponent ≤ 22) :
    timesPowerOfTen? { negative := false, units := d.digits * Binary64.one } d.exponent =
      some { negative := false, units := d.nearest } := by
  have hfinite := nearest_lt_overflow hfew hhigh
  unfold timesPowerOfTen?
  split
  · next hnegative =>
    have hsteps : (d.exponent.natAbs - 1) / greatestPower = 0 :=
      Nat.div_eq_of_lt (by unfold greatestPower; omega)
    have hpower := @units_powerOfTen d.exponent.natAbs (by omega)
    have hpos : 10 ^ d.exponent.natAbs * Binary64.one ≠ 0 :=
      Nat.pos_iff_ne_zero.1 (Nat.mul_pos (Nat.pow_pos (by decide)) Binary64.one_pos)
    have hnearest : Binary64.roundUnits (d.digits * Binary64.one * Binary64.one)
        (10 ^ d.exponent.natAbs * Binary64.one) = d.nearest := by
      have hleft : d.exponent.toNat = 0 := by omega
      have hright : (-d.exponent).toNat = d.exponent.natAbs := by omega
      rw [Binary64.roundUnits_scaled Binary64.one_pos, Decimal.nearest, hleft, hright, pow_zero,
        Nat.mul_one]
    rw [← hnearest] at hfinite
    rw [hsteps, overPowerOfTen?_zero, Binary64.div?, hpower, if_neg hpos,
      Binary64.ofUnits?_of_lt hfinite, hnearest, negative_powerOfTen, bne_self_eq_false]
  · next hpositive =>
    have hgreatest : d.exponent ≤ greatestPower := by
      unfold greatestPower
      omega
    have hpower := @units_powerOfTen d.exponent.toNat (by omega)
    have hnearest : Binary64.roundUnits
        (d.digits * Binary64.one * (10 ^ d.exponent.toNat * Binary64.one)) Binary64.one =
          d.nearest := by
      have hright : (-d.exponent).toNat = 0 := by omega
      have hproduct : d.digits * Binary64.one * (10 ^ d.exponent.toNat * Binary64.one) =
          d.digits * 10 ^ d.exponent.toNat * Binary64.one * Binary64.one := by
        rw [← Nat.mul_assoc, Nat.mul_right_comm d.digits]
      have hscaled := @Binary64.roundUnits_scaled
        (d.digits * 10 ^ d.exponent.toNat * Binary64.one) 1 Binary64.one Binary64.one_pos
      rw [Nat.one_mul] at hscaled
      rw [hproduct, hscaled, Decimal.nearest, hright, pow_zero]
    rw [← hnearest] at hfinite
    rw [if_pos hgreatest, Binary64.mul?, hpower, Binary64.ofUnits?_of_lt hfinite, hnearest,
      negative_powerOfTen, bne_self_eq_false]

/-! ## Short literals -/

namespace Literal

variable {literal : Literal}

/-- A literal has at most fifteen digits, and its power of ten is a double. -/
structure IsShort (literal : Literal) : Prop where
  digits_lt : literal.toDecimal.digits < 10 ^ 15
  exponent_ge : -22 ≤ literal.toDecimal.exponent
  exponent_le : literal.toDecimal.exponent ≤ 22
  /-- Also before the digits behind the point are counted, the power of ten fits a word. -/
  power_lt : literal.power.natAbs < 0x80000000

/-- A short literal is read as the nearest double. -/
theorem real?_of_isShort (h : literal.IsShort) :
    literal.real? =
      some { negative := literal.negative, units := literal.toDecimal.nearest } := by
  have hdigits : literal.toDecimal.digits < 0x10000000000000000 :=
    Nat.lt_trans h.digits_lt (by decide)
  have hexact : literal.toDecimal.digits < 2 ^ 53 := Nat.lt_trans h.digits_lt (by decide)
  rw [real?_eq hdigits h.power_lt, ofNat?_of_lt hexact, Option.bind_some,
    timesPowerOfTen?_of_exact h.digits_lt h.exponent_ge h.exponent_le, Option.map_some, signed]
  cases literal.negative <;> rfl

/-- A short literal is the shortest decimal of the double that it is read as. -/
theorem value_of_isShort (h : literal.IsShort) :
    ∃ x, literal.real? = some x ∧ literal.value = shortestValue x := by
  refine ⟨_, real?_of_isShort h, ?_⟩
  have hshortest : (Binary64.shortest literal.toDecimal.nearest).value = literal.toDecimal.value :=
    Decimal.value_shortest_nearest h.digits_lt (Int.le_trans (by decide) h.exponent_ge)
      (Int.le_trans h.exponent_le (by decide))
  have hmagnitude : (if Binary64.isZero ⟨literal.negative, literal.toDecimal.nearest⟩ then 0
      else (Binary64.shortest literal.toDecimal.nearest).value) = literal.toDecimal.value := by
    split
    · next hzero =>
      have hleast : (Binary64.shortest 0).value = 0 := by
        have hdigits : Binary64.shortest 0 = { digits := 0, exponent := 308 } := by decide +kernel
        rw [hdigits, Decimal.value, Nat.cast_zero, zero_mul]
      have hnearest : literal.toDecimal.nearest = 0 := eq_of_beq hzero
      rw [← hshortest, hnearest, hleast]
    · exact hshortest
  rw [Literal.value_eq, shortestValue, hmagnitude]

end Literal

end JobImages.Json
