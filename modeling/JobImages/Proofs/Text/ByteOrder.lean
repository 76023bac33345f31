import JobImages.Text.Bytes

/-!
# The order of texts is the order of their bytes

Texts are compared character by character, a file system compares names byte by byte, and both
orders are one.  The bytes of a character are a lead, which tells how many there are, and digits to
the base 64, the highest first.  So a greater character of the same length has greater digits, and
one that needs more bytes has a greater lead.

## Main definitions

* `Text.OrdersBelow` — a code for numbers that keeps their order, whatever follows.

## Main results

* `Text.utf8EncodeChar_lt` — the bytes of a greater character are greater;
* `Text.toBytes_lt_toBytes_iff` — the bytes of texts are in the order of the texts.
-/

namespace JobImages.Text

/-- Of two numbers below a bound the greater has the greater code, whatever follows the codes. -/
def OrdersBelow (bound : Nat) (code : Nat → List UInt8) : Prop :=
  ∀ n m, n < m → m < bound → ∀ x y, code n ++ x < code m ++ y

theorem ofNat_lt_ofNat {n m : Nat} (h : n < m) (hm : m < 256) : UInt8.ofNat n < UInt8.ofNat m := by
  rw [UInt8.lt_iff_toNat_lt, UInt8.toNat_ofNat', UInt8.toNat_ofNat']
  omega

theorem cons_lt_cons_of_lt {n m : Nat} (h : n < m) (hm : m < 256) (x y : List UInt8) :
    UInt8.ofNat n :: x < UInt8.ofNat m :: y :=
  List.cons_lt_cons_iff.2 (.inl (ofNat_lt_ofNat h hm))

/-- A single byte that counts from its lead on. -/
theorem ordersBelow_lead (size lead : Nat) (h : size + lead ≤ 256) :
    OrdersBelow size fun n => [UInt8.ofNat (n % size + lead)] := by
  intro n m hlt hm x y
  refine cons_lt_cons_of_lt ?_ ?_ x y
  · rw [Nat.mod_eq_of_lt (Nat.lt_trans hlt hm), Nat.mod_eq_of_lt hm]
    omega
  · rw [Nat.mod_eq_of_lt hm]
    omega

/-- One more digit goes behind. -/
theorem OrdersBelow.digit {bound : Nat} {code : Nat → List UInt8} (h : OrdersBelow bound code) :
    OrdersBelow (bound * 64) fun n => code (n / 64) ++ [UInt8.ofNat (n % 64 + 128)] := by
  intro n m hlt hm x y
  rw [List.append_assoc, List.append_assoc]
  by_cases hhigh : n / 64 < m / 64
  · exact h (n / 64) (m / 64) hhigh (by omega) _ _
  · -- With the same higher digits the last one decides.
    have hsame : n / 64 = m / 64 := by omega
    rw [hsame]
    exact List.append_left_lt (cons_lt_cons_of_lt (by omega) (by omega) x y)

/-- The lead of a character tells how many bytes there are. -/
theorem exists_lead (c : Char) :
    ∃ lead rest, String.utf8EncodeChar c = UInt8.ofNat lead :: rest ∧ lead < 256 ∧
      (c.val.toNat ≤ 0x7f ↔ lead < 0xc0) ∧ (c.val.toNat ≤ 0x7ff ↔ lead < 0xe0) ∧
      (c.val.toNat ≤ 0xffff ↔ lead < 0xf0) := by
  rw [String.utf8EncodeChar.eq_1]
  generalize c.val.toNat = n
  split
  · exact ⟨n, _, rfl, by omega, by omega, by omega, by omega⟩
  · split
    · exact ⟨n / 64 % 32 + 192, _, rfl, by omega, by omega, by omega, by omega⟩
    · split
      · exact ⟨n / 4096 % 16 + 224, _, rfl, by omega, by omega, by omega, by omega⟩
      · exact ⟨n / 262144 % 8 + 240, _, rfl, by omega, by omega, by omega, by omega⟩

/-- A character that needs more bytes than another has a greater lead. -/
theorem utf8EncodeChar_lt_of_lead {c d : Char} (x y : List UInt8)
    (h : c.val.toNat ≤ 0x7f ∧ 0x7f < d.val.toNat ∨ c.val.toNat ≤ 0x7ff ∧ 0x7ff < d.val.toNat ∨
      c.val.toNat ≤ 0xffff ∧ 0xffff < d.val.toNat) :
    String.utf8EncodeChar c ++ x < String.utf8EncodeChar d ++ y := by
  obtain ⟨lead, rest, hcode, -, h1, h2, h3⟩ := exists_lead c
  obtain ⟨lead', rest', hcode', hbyte', h1', h2', h3'⟩ := exists_lead d
  rw [hcode, hcode']
  exact cons_lt_cons_of_lt (by omega) hbyte' _ _

theorem valid_lt (c : Char) : c.val.toNat < 0x110000 := by
  have hvalid := c.valid
  simp only [UInt32.isValidChar, Nat.isValidChar] at hvalid
  omega

/-- The bytes of a greater character are greater, whatever follows. -/
theorem utf8EncodeChar_lt {c d : Char} (h : c < d) (x y : List UInt8) :
    String.utf8EncodeChar c ++ x < String.utf8EncodeChar d ++ y := by
  have hlt : c.val.toNat < d.val.toNat := h
  have hvalid := valid_lt d
  by_cases hlead : c.val.toNat ≤ 0x7f ∧ 0x7f < d.val.toNat ∨
      c.val.toNat ≤ 0x7ff ∧ 0x7ff < d.val.toNat ∨ c.val.toNat ≤ 0xffff ∧ 0xffff < d.val.toNat
  · exact utf8EncodeChar_lt_of_lead x y hlead
  -- Otherwise both have equally many bytes.
  have hsame : d.val.toNat ≤ 0x7f ∨ (0x7f < c.val.toNat ∧ d.val.toNat ≤ 0x7ff) ∨
      (0x7ff < c.val.toNat ∧ d.val.toNat ≤ 0xffff) ∨ 0xffff < c.val.toNat := by omega
  rw [String.utf8EncodeChar.eq_1, String.utf8EncodeChar.eq_1]
  rcases hsame with hone | ⟨hmore, htwo⟩ | ⟨hmore, hthree⟩ | hmore
  · rw [if_pos (by omega), if_pos hone]
    exact cons_lt_cons_of_lt hlt (by omega) x y
  · have horder := (ordersBelow_lead 32 192 (by decide)).digit
    rw [if_neg (by omega), if_pos (by omega), if_neg (by omega), if_pos htwo]
    exact horder _ _ hlt (by omega) x y
  · have horder := (ordersBelow_lead 16 224 (by decide)).digit.digit
    simp only [Nat.div_div_eq_div_mul] at horder
    rw [if_neg (by omega), if_neg (by omega), if_pos (by omega), if_neg (by omega),
      if_neg (by omega), if_pos hthree]
    exact horder _ _ hlt (by omega) x y
  · have horder := (ordersBelow_lead 8 240 (by decide)).digit.digit.digit
    simp only [Nat.div_div_eq_div_mul] at horder
    rw [if_neg (by omega), if_neg (by omega), if_neg (by omega), if_neg (by omega),
      if_neg (by omega), if_neg (by omega)]
    exact horder _ _ hlt (by omega) x y

theorem flatMap_utf8EncodeChar_lt {a b : List Char} (h : a < b) :
    a.flatMap String.utf8EncodeChar < b.flatMap String.utf8EncodeChar := by
  induction a generalizing b with
  | nil =>
    cases b with
    | nil => exact absurd h (List.lt_irrefl _)
    | cons d ds =>
      rw [List.flatMap_nil, List.flatMap_cons]
      cases hcode : String.utf8EncodeChar d with
      | nil => exact absurd hcode String.utf8EncodeChar_ne_nil
      | cons byte rest => exact List.nil_lt_cons _ _
  | cons c cs ih =>
    cases b with
    | nil => exact absurd h (List.not_lt_nil _)
    | cons d ds =>
      rw [List.flatMap_cons, List.flatMap_cons]
      rcases List.cons_lt_cons_iff.1 h with hlt | ⟨rfl, hlt⟩
      · exact utf8EncodeChar_lt hlt _ _
      · exact List.append_left_lt (ih hlt)

/-- The bytes of texts are in the order of the texts. -/
theorem toBytes_lt_toBytes_iff {a b : String} :
    toBytes a < toBytes b ↔ a.toList < b.toList := by
  constructor
  · intro h
    -- In any other order of the texts the bytes would be equal or the other way round.
    refine Decidable.byContradiction fun hnot => ?_
    rcases List.le_iff_lt_or_eq.1 (List.not_lt.1 hnot) with hlt | heq
    · exact List.lt_asymm h (flatMap_utf8EncodeChar_lt hlt)
    · rw [toBytes, toBytes, heq] at h
      exact List.lt_irrefl _ h
  · exact flatMap_utf8EncodeChar_lt

end JobImages.Text
