import JobImages.Json.Printer
import JobImages.Proofs.Json.NumberRule

/-!
# Integers as they are written

An integer is written in decimal digits without a leading zero, behind a minus sign if it is
negative.  That is a number by the grammar, so it is read back whatever follows, as long as what
follows cannot be taken for more of it.

## Main results

* `Json.Reader.isNumber_writeInteger` — what is written for an integer is a number;
* `Json.Reader.number?_writeInteger` — and the number is the integer.
-/

namespace JobImages.Json

/-! ## Digits -/

theorem digitsValue_decimal (n : Nat) : digitsValue (decimal n) = n := by
  have hvalue : digitsValue (decimal n) = Nat.ofDigitChars 10 (decimal n) 0 := by
    simp only [digitsValue, Nat.ofDigitChars, digitValue, Nat.mul_comm]
  rw [hvalue]
  exact Nat.ofDigitChars_ten_toDigits

theorem isDigit_of_mem_decimal {n : Nat} {c : Char} (h : c ∈ decimal n) : c.isDigit = true :=
  Nat.isDigit_of_mem_toDigits (by decide) (by decide) h

theorem digitChar_ne_zero {n : Nat} (hpos : 0 < n) (hlt : n < 10) : n.digitChar ≠ '0' := by
  have hall : ∀ m < 10, 0 < m → Nat.digitChar m ≠ '0' := by decide
  exact hall n hlt hpos

/-- Only zero begins with a zero. -/
theorem decimal_eq_cons {n : Nat} (hpos : 0 < n) :
    ∃ first others, decimal n = first :: others ∧ first ≠ '0' := by
  -- The first digit of a number is that of its tenth, unless it has one digit only.
  induction n using Nat.strongRecOn with
  | ind n ih =>
    by_cases hlt : n < 10
    · refine ⟨n.digitChar, [], Nat.toDigits_of_lt_base hlt, digitChar_ne_zero hpos hlt⟩
    · have htenth : 0 < n / 10 := by omega
      obtain ⟨first, others, hdigits, hfirst⟩ := ih (n / 10) (by omega) htenth
      refine ⟨first, others ++ [(n % 10).digitChar], ?_, hfirst⟩
      have hsplit : decimal n = decimal (n / 10) ++ [(n % 10).digitChar] :=
        Nat.toDigits_of_base_le (by decide) (by omega)
      rw [hsplit, hdigits, List.cons_append]

/-! ## Numbers -/

namespace Reader

open Grammar

theorem isWhole_decimal (n : Nat) : IsWhole (decimal n) := by
  by_cases hpos : 0 < n
  · obtain ⟨first, others, hdigits, hfirst⟩ := decimal_eq_cons hpos
    have hall : ∀ c ∈ first :: others, c.isDigit = true := fun c hc =>
      isDigit_of_mem_decimal (n := n) (hdigits ▸ hc)
    rw [List.forall_mem_cons] at hall
    rw [hdigits]
    exact .other hall.1 hfirst hall.2
  · obtain rfl : n = 0 := by omega
    exact .zero

/-- What is written for an integer is a number. -/
theorem isNumber_writeInteger (n : Integer) :
    IsNumber { negative := decide (n.value < 0), whole := decimal n.value.natAbs, fraction := none,
               exponent := none } (writeInteger n) := by
  have hwhole := isWhole_decimal n.value.natAbs
  by_cases hneg : n.value < 0
  · have hnumber := IsNumber.negative hwhole .absent .absent
    simpa [writeInteger, hneg] using hnumber
  · have hnumber := IsNumber.positive hwhole .absent .absent
    simpa [writeInteger, hneg] using hnumber

theorem integer?_writeInteger (n : Integer) :
    Literal.integer? { negative := decide (n.value < 0), whole := decimal n.value.natAbs,
                       fraction := none, exponent := none } = some n := by
  simp only [Literal.integer?, digitsValue_decimal, decide_eq_true_eq]
  by_cases hneg : n.value < 0
  · have habs : -(n.value.natAbs : Int) = n.value := by omega
    rw [if_pos hneg, if_neg (by omega), habs, Integer.ofInt?_value]
  · have habs : (n.value.natAbs : Int) = n.value := by omega
    rw [if_neg hneg, habs, Integer.ofInt?_value]

/-- The number that is written for an integer is that integer. -/
theorem number?_writeInteger (n : Integer) :
    Literal.number? { negative := decide (n.value < 0), whole := decimal n.value.natAbs,
                      fraction := none, exponent := none } = some (.integer n) := by
  rw [Literal.number?, integer?_writeInteger]

end Reader

end JobImages.Json
