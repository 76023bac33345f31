import JobImages.Proofs.Binary64.FewDigits
import JobImages.Proofs.Json.Integer

/-!
# Number literals and what they denote

A number literal denotes a rational number, whatever its digits are and however many.  Conversely
each number is written by a literal: an integer by its digits, and a double by those of its shortest
decimal, with a point and perhaps an exponent.  The literal that is written denotes that decimal,
which need not be what the double came from.

## Main definitions

* `Literal.value` — the rational number that a literal denotes;
* `Literal.ofDecimal`, `Literal.ofNumber` — the literals by which decimals and numbers are written;
* `Number.writtenValue` — what is written for a number, as a rational number.

## Main results

* `isNumber_writeNumber` — what is written for a number is one by the grammar;
* `value_ofNumber` — and denotes what it should.
-/

namespace JobImages

namespace Json

open Grammar

/-! ## Values of digits -/

/-- The natural number that digits denote behind those of another. -/
def digitsAfter (start : Nat) (digits : List Char) : Nat :=
  digits.foldl (fun value digit => value * 10 + digitValue digit) start

theorem digitsAfter_cons (start : Nat) (digit : Char) (rest : List Char) :
    digitsAfter start (digit :: rest) = digitsAfter (start * 10 + digitValue digit) rest := by
  unfold digitsAfter
  rw [List.foldl_cons]

theorem digitsAfter_eq (digits : List Char) :
    ∀ start, digitsAfter start digits = start * 10 ^ digits.length + digitsValue digits := by
  show ∀ start, digitsAfter start digits = start * 10 ^ digits.length + digitsAfter 0 digits
  induction digits with
  | nil => simp [digitsAfter]
  | cons digit rest ih =>
    intro start
    rw [digitsAfter_cons, digitsAfter_cons, ih, ih (0 * 10 + _), List.length_cons, pow_succ]
    ring

theorem le_digitsAfter (start : Nat) (digits : List Char) : start ≤ digitsAfter start digits := by
  rw [digitsAfter_eq]
  exact Nat.le_add_right_of_le (Nat.le_mul_of_pos_right start (Nat.pow_pos (by decide)))

theorem digitsValue_append_eq_after (front back : List Char) :
    digitsValue (front ++ back) = digitsAfter (digitsValue front) back :=
  List.foldl_append

theorem digitsValue_append (front back : List Char) :
    digitsValue (front ++ back) = digitsValue front * 10 ^ back.length + digitsValue back :=
  (digitsValue_append_eq_after front back).trans (digitsAfter_eq back _)

theorem digitsValue_zeros (n : Nat) : digitsValue (List.replicate n '0') = 0 := by
  induction n with
  | zero => rfl
  | succ n ih =>
    rw [List.replicate_succ', digitsValue_append, ih]
    rfl

namespace Literal

/-- The power of ten that the exponent part stands for. -/
def power (literal : Literal) : Int :=
  match literal.exponent with
  | none => 0
  | some exponent =>
    if exponent.negative then -(digitsValue exponent.digits : Int)
    else digitsValue exponent.digits

/-- The digits behind the point. -/
def fractionDigits (literal : Literal) : List Char :=
  literal.fraction.getD []

/-- The rational number that a literal denotes. -/
def value (literal : Literal) : ℚ :=
  let magnitude : ℚ :=
    (digitsValue literal.whole +
        digitsValue literal.fractionDigits / 10 ^ literal.fractionDigits.length) *
      10 ^ literal.power
  if literal.negative then -magnitude else magnitude

/-- The digits on both sides of the point, read as one natural number, and the power of ten that
the last of them counts. -/
def toDecimal (literal : Literal) : Decimal :=
  { digits := digitsValue (literal.whole ++ literal.fractionDigits)
    exponent := literal.power - literal.fractionDigits.length }

/-- But for the sign a literal denotes its decimal. -/
theorem value_eq (literal : Literal) :
    literal.value = if literal.negative then -literal.toDecimal.value else literal.toDecimal.value := by
  have hten : (10 : ℚ) ^ literal.fractionDigits.length ≠ 0 := pow_ne_zero _ (by norm_num)
  have hmagnitude :
      (digitsValue literal.whole +
          digitsValue literal.fractionDigits / 10 ^ literal.fractionDigits.length : ℚ) *
        10 ^ literal.power = literal.toDecimal.value := by
    rw [Decimal.value, toDecimal, zpow_sub₀ (by norm_num), zpow_natCast, digitsValue_append]
    push_cast
    field_simp
  rw [value, hmagnitude]

/-! ## Literals that are written -/

/-- The literal by which a decimal is written. -/
def ofDecimal (decimal : Decimal) : Literal :=
  let digits := Json.decimal decimal.digits
  let first := decimal.exponent + digits.length - 1
  if leastPositional ≤ first && first ≤ greatestPositional then
    if 0 ≤ decimal.exponent then
      { negative := false
        whole := digits ++ List.replicate decimal.exponent.toNat '0'
        fraction := some ['0']
        exponent := none }
    else if 0 ≤ first then
      { negative := false
        whole := digits.take (first + 1).toNat
        fraction := some (digits.drop (first + 1).toNat)
        exponent := none }
    else
      { negative := false
        whole := ['0']
        fraction := some (List.replicate (-first - 1).toNat '0' ++ digits)
        exponent := none }
  else
    { negative := false
      whole := digits.take 1
      fraction := if digits.length = 1 then none else some (digits.drop 1)
      exponent := some { negative := decide (first < 0), digits := Json.decimal first.natAbs } }

/-- The literal by which a double is written. -/
def ofReal (x : Binary64) : Literal :=
  let magnitude :=
    if x.isZero then
      { negative := false, whole := ['0'], fraction := some ['0'], exponent := none }
    else ofDecimal (Binary64.shortest x.units)
  { magnitude with negative := x.negative }

/-- The literal by which an integer is written. -/
def ofInteger (n : Integer) : Literal :=
  { negative := decide (n.value < 0)
    whole := decimal n.value.natAbs
    fraction := none
    exponent := none }

/-- The literal by which a number is written. -/
def ofNumber : Number → Literal
  | .integer n => ofInteger n
  | .real x => ofReal x

end Literal

/-! ### They are numbers by the grammar -/

section Grammar

variable {first : Char} {others : List Char} {d : Decimal}

theorem isWhole_cons (hfirst : first ≠ '0') (hall : ∀ c ∈ first :: others, c.isDigit = true) :
    IsWhole (first :: others) := by
  rw [List.forall_mem_cons] at hall
  exact .other hall.1 hfirst hall.2

theorem isDigit_of_mem_zeros {n : Nat} {c : Char} (h : c ∈ List.replicate n '0') :
    c.isDigit = true := by
  rw [List.eq_of_mem_replicate h]
  rfl

theorem length_decimal_pos (n : Nat) : 0 < (decimal n).length :=
  List.length_pos_iff.2 Nat.toDigits_ne_nil

theorem isDigits_decimal (n : Nat) : IsDigits (decimal n) :=
  ⟨Nat.toDigits_ne_nil, fun _ hc => isDigit_of_mem_decimal hc⟩

theorem isDigits_zero : IsDigits ['0'] :=
  isDigits_decimal 0

/-- What is written for a decimal with a digit other than zero is a number. -/
theorem isNumber_writeDecimal (hpos : 0 < d.digits) :
    IsNumber (Literal.ofDecimal d) (writeDecimal d) := by
  obtain ⟨first, others, hdigits, hfirst⟩ := decimal_eq_cons hpos
  have hall : ∀ c ∈ first :: others, c.isDigit = true := fun c hc =>
    isDigit_of_mem_decimal (n := d.digits) (hdigits ▸ hc)
  unfold Literal.ofDecimal writeDecimal
  simp only [hdigits, List.length_cons]
  split
  · split
    · -- All digits stand before the point, and zeros behind them.
      have hwhole : IsWhole (first :: others ++ List.replicate d.exponent.toNat '0') := by
        refine isWhole_cons hfirst fun c hc => ?_
        rcases List.mem_append.1 (List.cons_append ▸ hc) with hc | hc
        · exact hall c hc
        · exact isDigit_of_mem_zeros hc
      simpa using IsNumber.positive hwhole (.present isDigits_zero) .absent
    · next hexponent =>
      split
      · next hpoint =>
        -- The point stands between two digits.
        obtain ⟨k, hk⟩ : ∃ k, (d.exponent + ↑(others.length + 1) - 1 + 1).toNat = k + 1 :=
          ⟨(d.exponent + others.length).toNat, by omega⟩
        have hlast : k < others.length := by omega
        have hwhole : IsWhole ((first :: others).take (k + 1)) :=
          isWhole_cons hfirst fun c hc =>
            hall c (List.mem_of_mem_take (show c ∈ (first :: others).take (k + 1) from hc))
        have hfraction : IsDigits ((first :: others).drop (k + 1)) := by
          refine ⟨?_, fun c hc => hall c (List.mem_of_mem_drop hc)⟩
          rw [Ne, List.drop_eq_nil_iff, List.length_cons]
          omega
        rw [hk]
        simpa using IsNumber.positive hwhole (.present hfraction) .absent
      · -- All digits stand behind the point, and zeros before them.
        have hfraction : IsDigits (List.replicate
            (-(d.exponent + ↑(others.length + 1) - 1) - 1).toNat '0' ++ first :: others) := by
          refine ⟨List.append_ne_nil_of_right_ne_nil _ (List.cons_ne_nil _ _), fun c hc => ?_⟩
          rcases List.mem_append.1 hc with hc | hc
          · exact isDigit_of_mem_zeros hc
          · exact hall c hc
        simpa using IsNumber.positive .zero (.present hfraction) .absent
  · -- One digit stands before the point, and there is an exponent.
    have hwhole : IsWhole [first] :=
      isWhole_cons hfirst fun c hc => hall c (List.mem_singleton.1 hc ▸ List.mem_cons_self)
    have hfraction : IsFraction (if others.length + 1 = 1 then none else some others)
        ((if others.length + 1 = 1 then [] else ['.']) ++ others) := by
      cases others with
      | nil => exact .absent
      | cons second rest =>
        exact .present ⟨List.cons_ne_nil _ _, fun c hc => hall c (List.mem_cons_of_mem _ hc)⟩
    have hexponent : ∀ power : Int,
        IsExponent (some { negative := decide (power < 0), digits := decimal power.natAbs })
          ('e' :: (if power < 0 then '-' else '+') :: decimal power.natAbs) := by
      intro power
      have hdecimal := isDigits_decimal power.natAbs
      by_cases hnegative : power < 0
      · rw [decide_eq_true hnegative, if_pos hnegative]
        exact .minus (.inl rfl) hdecimal
      · rw [decide_eq_false hnegative, if_neg hnegative]
        exact .plus (.inl rfl) hdecimal
    generalize d.exponent + ((others.length + 1 : Nat) : Int) - 1 = power
    simpa using IsNumber.positive hwhole hfraction (hexponent power)

/-- A sign may stand before a number that has none. -/
theorem IsNumber.signed {literal : Literal} {text : List Char} (h : IsNumber literal text)
    (hsign : literal.negative = false) (negative : Bool) :
    IsNumber { literal with negative } (if negative then '-' :: text else text) := by
  cases h with
  | positive hwhole hfraction hexponent =>
    cases negative with
    | true => exact .negative hwhole hfraction hexponent
    | false => exact .positive hwhole hfraction hexponent
  | negative hwhole hfraction hexponent => cases hsign

theorem negative_ofDecimal (d : Decimal) : (Literal.ofDecimal d).negative = false := by
  unfold Literal.ofDecimal
  dsimp only
  split
  · split
    · rfl
    · split <;> rfl
  · rfl

theorem isNumber_writeReal (x : Binary64) : IsNumber (Literal.ofReal x) (writeReal x) := by
  unfold Literal.ofReal writeReal
  dsimp only
  by_cases hzero : x.isZero = true
  · rw [if_pos hzero, if_pos hzero]
    exact IsNumber.signed (.positive .zero (.present isDigits_zero) .absent) rfl x.negative
  · have hpos : 0 < x.units := Nat.pos_of_ne_zero (by simpa [Binary64.isZero] using hzero)
    have hnumber := isNumber_writeDecimal (Binary64.digits_shortest_pos hpos)
    rw [if_neg hzero, if_neg hzero]
    exact IsNumber.signed hnumber (negative_ofDecimal _) x.negative

/-- What is written for a number is one by the grammar. -/
theorem isNumber_writeNumber (n : Number) : IsNumber (Literal.ofNumber n) (writeNumber n) := by
  cases n with
  | integer n => exact Reader.isNumber_writeInteger n
  | real x => exact isNumber_writeReal x

end Grammar

/-! ### They denote what they should -/

/-- The shortest decimal of a double, with the sign. -/
def shortestValue (x : Binary64) : ℚ :=
  let magnitude := if x.isZero then 0 else (Binary64.shortest x.units).value
  if x.negative then -magnitude else magnitude

/-- The rational number that is written for a number: an integer itself, and the shortest decimal
of a double. -/
def Number.writtenValue : Number → ℚ
  | .integer n => n.value
  | .real x => shortestValue x

section Value

/-- A literal without a sign denotes its digits, read as one natural number, times a power of
ten; zeros at the end of the digits may be counted in the power. -/
theorem Literal.value_of_digits {literal : Literal} (hsign : literal.negative = false) {n k : Nat}
    (hdigits : digitsValue (literal.whole ++ literal.fractionDigits) = n * 10 ^ k)
    {exponent : Int} (hexponent : literal.power - literal.fractionDigits.length + k = exponent) :
    literal.value = n * 10 ^ exponent := by
  rw [Literal.value_eq, hsign, Literal.toDecimal, Decimal.value, hdigits, ← hexponent,
    zpow_add₀ (by norm_num), zpow_natCast]
  push_cast
  ring

theorem Literal.power_signed (literal : Literal) (first : Int) :
    Literal.power { literal with
      exponent := some { negative := decide (first < 0), digits := decimal first.natAbs } } =
        first := by
  simp only [Literal.power, digitsValue_decimal, decide_eq_true_eq]
  split <;> omega

/-- No digits behind the point are as good as no point. -/
theorem Literal.fractionDigits_drop (literal : Literal) (digits : List Char) :
    Literal.fractionDigits { literal with
      fraction := if digits.length = 1 then none else some (digits.drop 1) } = digits.drop 1 := by
  unfold Literal.fractionDigits
  dsimp only
  split
  · next hone => rw [Option.getD_none, List.drop_eq_nil_of_le (Nat.le_of_eq hone)]
  · rfl

/-- A decimal's literal denotes the decimal. -/
theorem value_ofDecimal (d : Decimal) : (Literal.ofDecimal d).value = d.value := by
  have hlength := length_decimal_pos d.digits
  have hall : digitsValue (decimal d.digits) = d.digits := digitsValue_decimal d.digits
  unfold Literal.ofDecimal Decimal.value
  dsimp only
  generalize hfirst : d.exponent + (decimal d.digits).length - 1 = first
  split
  · split
    · next hexponent =>
      -- One more zero stands behind the point.
      refine Literal.value_of_digits rfl (k := d.exponent.toNat + 1) ?_ ?_
      · rw [Literal.fractionDigits, Option.getD_some, digitsValue_append, digitsValue_append,
          digitsValue_zeros, hall, List.length_replicate]
        simp [pow_succ, digitsValue, digitValue, Nat.mul_assoc]
      · simp only [Literal.power, Literal.fractionDigits, Option.getD_some, List.length_singleton]
        omega
    · split
      · next hexponent hpoint =>
        refine Literal.value_of_digits rfl (k := 0) ?_ ?_
        · rw [Literal.fractionDigits, Option.getD_some, List.take_append_drop, hall]
          simp
        · simp only [Literal.power, Literal.fractionDigits, Option.getD_some, List.length_drop]
          omega
      · next hexponent hpoint =>
        refine Literal.value_of_digits rfl (k := 0) ?_ ?_
        · rw [Literal.fractionDigits, Option.getD_some, digitsValue_append, digitsValue_append,
            digitsValue_zeros, hall]
          simp [digitsValue, digitValue]
        · simp only [Literal.power, Literal.fractionDigits, Option.getD_some, List.length_append,
            List.length_replicate]
          omega
  · refine Literal.value_of_digits rfl (k := 0) ?_ ?_
    · rw [Literal.fractionDigits_drop { negative := false, whole := _, fraction := none, exponent := _ },
        List.take_append_drop, hall]
      simp
    · rw [Literal.fractionDigits_drop { negative := false, whole := _, fraction := none, exponent := _ },
        Literal.power_signed { negative := false, whole := _, fraction := _, exponent := none },
        List.length_drop]
      omega

theorem Literal.value_signed {literal : Literal} (hsign : literal.negative = false)
    (negative : Bool) :
    Literal.value { literal with negative } =
      if negative then -literal.value else literal.value := by
  rw [Literal.value, Literal.value, hsign]
  rfl

theorem value_ofReal (x : Binary64) : (Literal.ofReal x).value = shortestValue x := by
  unfold Literal.ofReal shortestValue
  by_cases hzero : x.isZero = true
  · have hvalue : Literal.value
        { negative := false, whole := ['0'], fraction := some ['0'], exponent := none } = 0 := by
      simp [Literal.value, Literal.fractionDigits, digitsValue, digitValue]
    rw [if_pos hzero, if_pos hzero]
    exact (Literal.value_signed rfl x.negative).trans (by rw [hvalue])
  · rw [if_neg hzero, if_neg hzero]
    exact (Literal.value_signed (negative_ofDecimal _) x.negative).trans
      (by rw [value_ofDecimal])

/-- An integer that is kept exactly is what the literal denotes. -/
theorem Literal.value_of_integer? {literal : Literal} {n : Integer}
    (h : literal.integer? = some n) : literal.value = n.value := by
  obtain ⟨negative, whole, fraction, exponent⟩ := literal
  unfold Literal.integer? at h
  split at h
  · next hfraction hexponent =>
    dsimp only at hfraction hexponent h
    subst hfraction hexponent
    have hof : ∀ value : Int, Integer.ofInt? value = some n → n.value = value := by
      intro value hvalue
      unfold Integer.ofInt? at hvalue
      split at hvalue
      · cases hvalue
        rfl
      · cases hvalue
    cases negative with
    | true =>
      rw [if_pos rfl] at h
      split at h
      · cases h
      · rw [hof _ h]
        simp [Literal.value, Literal.fractionDigits, Literal.power, digitsValue]
    | false =>
      rw [if_neg Bool.false_ne_true] at h
      rw [hof _ h]
      simp [Literal.value, Literal.fractionDigits, Literal.power, digitsValue]
  · cases h

/-- What is written for a number denotes an integer itself, and the shortest decimal of a double. -/
theorem value_ofNumber (n : Number) : (Literal.ofNumber n).value = n.writtenValue := by
  cases n with
  | integer n => exact Literal.value_of_integer? (Reader.integer?_writeInteger n)
  | real x => exact value_ofReal x

end Value

end Json

end JobImages
