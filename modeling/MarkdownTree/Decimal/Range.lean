import MarkdownTree.Decimal.Basic

/-! Decimals far outside the range of the binary numbers. The power of ten in a text may be of any size, so a
reader settles these without computing it; `toBinary64?_eq_nearest?` says that this changes no answer. -/

namespace MarkdownTree

namespace Binary64

theorem nearest?_eq_zero (negative : Bool) {numerator denominator : Nat}
    (small : 2 * numerator < denominator) : nearest? negative numerator denominator = some (zero negative) := by
  have none : numerator / denominator = 0 := Nat.div_eq_of_lt (by omega)
  have rest : numerator % denominator = numerator := Nat.mod_eq_of_lt (by omega)
  simp [nearest?, none, scale, roundHalfEven, rest, small, zero]

theorem nearest?_eq_none (negative : Bool) {numerator denominator : Nat}
    (large : 2107 ≤ (numerator / denominator).log2) : nearest? negative numerator denominator = none := by
  have scaled : 2046 ≤ scale (numerator / denominator) := by unfold scale; omega
  grind [nearest?]

end Binary64

namespace Decimal

theorem digits_lt (decimal : Decimal) : decimal.digits < Nat.pow 10 decimal.text.length :=
  (Nat.length_toDigits_le_iff (by decide) Nat.length_toDigits_pos).1 (Nat.le_refl _)

theorem le_digits (decimal : Decimal) (nonzero : decimal.digits ≠ 0) :
    Nat.pow 10 (decimal.text.length - 1) ≤ decimal.digits := by
  by_cases single : decimal.text.length ≤ 1
  · rw [Nat.sub_eq_zero_of_le single]
    exact Nat.pos_iff_ne_zero.2 nonzero
  · have := Nat.length_toDigits_le_iff (b := 10) (n := decimal.digits) (k := decimal.text.length - 1)
      (by decide) (by omega)
    simp only [text, Nat.pow_eq] at *
    omega

/-- The nearest binary number. Far outside the range the answer is known from the leading digit. -/
def toBinary64? (negative : Bool) (decimal : Decimal) : Option Binary64 :=
  if decimal.digits = 0 ∨ decimal.leading < -330 then some (.zero negative)
  else if 310 < decimal.leading then none
  else decimal.nearest? negative

theorem twice_unitsPerOne_lt : 2 * Binary64.unitsPerOne < Nat.pow 10 330 := by
  decide +kernel

theorem le_unitsPerOne : 1 <<< 2107 ≤ Nat.pow 10 311 * Binary64.unitsPerOne := by
  decide +kernel

theorem mul_lt_pow_of_lt {left right length margin places : Nat} (first : left < Nat.pow 10 length)
    (second : right < Nat.pow 10 margin) (enough : length + margin ≤ places) :
    left * right < Nat.pow 10 places := by
  calc left * right < 10 ^ length * 10 ^ margin := Nat.mul_lt_mul'' first second
    _ = 10 ^ (length + margin) := (Nat.pow_add ..).symm
    _ ≤ 10 ^ places := Nat.pow_le_pow_right (by decide) enough

theorem mul_pow_le_of_le {bound right left low margin high places : Nat}
    (first : bound ≤ Nat.pow 10 margin * right) (second : Nat.pow 10 low ≤ left)
    (enough : places + margin ≤ low + high) :
    bound * Nat.pow 10 places ≤ left * Nat.pow 10 high * right := by
  calc bound * 10 ^ places ≤ 10 ^ margin * right * 10 ^ places := Nat.mul_le_mul_right _ first
    _ = 10 ^ (places + margin) * right := by rw [Nat.pow_add, Nat.mul_right_comm, Nat.mul_comm (10 ^ margin)]
    _ ≤ 10 ^ (low + high) * right := Nat.mul_le_mul_right _ (Nat.pow_le_pow_right (by decide) enough)
    _ = 10 ^ low * 10 ^ high * right := by rw [Nat.pow_add]
    _ ≤ left * 10 ^ high * right := Nat.mul_le_mul_right _ (Nat.mul_le_mul_right _ second)

theorem le_log2_div {bits numerator denominator : Nat} (positive : 0 < denominator)
    (large : 1 <<< bits * denominator ≤ numerator) : bits ≤ (numerator / denominator).log2 := by
  have quotient := (Nat.le_div_iff_mul_le positive).2 large
  rw [Nat.shiftLeft_eq, Nat.one_mul] at quotient
  have nonzero : numerator / denominator ≠ 0 :=
    Nat.pos_iff_ne_zero.1 (Nat.lt_of_lt_of_le (Nat.two_pow_pos _) quotient)
  exact (Nat.le_log2 nonzero).2 quotient

theorem denominator_pos (decimal : Decimal) : 0 < decimal.denominator :=
  Nat.pow_pos (by decide)

theorem nearest?_of_leading_lt (negative : Bool) (decimal : Decimal) (small : decimal.leading < -330) :
    decimal.nearest? negative = some (.zero negative) := by
  apply Binary64.nearest?_eq_zero
  have whole : decimal.exponent.toNat = 0 := by unfold leading at small; omega
  have places : decimal.text.length + 330 ≤ (-decimal.exponent).toNat := by unfold leading at small; omega
  have unscaled : decimal.numerator = decimal.digits := by simp [numerator, whole]
  rw [unscaled, Nat.mul_left_comm]
  exact mul_lt_pow_of_lt decimal.digits_lt twice_unitsPerOne_lt places

theorem nearest?_of_lt_leading (negative : Bool) (decimal : Decimal) (nonzero : decimal.digits ≠ 0)
    (large : 310 < decimal.leading) : decimal.nearest? negative = none := by
  apply Binary64.nearest?_eq_none
  have places : (-decimal.exponent).toNat + 311 ≤ decimal.text.length - 1 + decimal.exponent.toNat := by
    unfold leading at large
    omega
  exact le_log2_div decimal.denominator_pos
    (mul_pow_le_of_le le_unitsPerOne (decimal.le_digits nonzero) places)

theorem toBinary64?_eq_nearest? (negative : Bool) (decimal : Decimal) :
    decimal.toBinary64? negative = decimal.nearest? negative := by
  unfold toBinary64?
  split
  · rename_i settled
    obtain zero | small := settled
    · rw [nearest?, numerator, zero, Nat.zero_mul, Nat.zero_mul]
      exact (Binary64.nearest?_eq_zero negative decimal.denominator_pos).symm
    · exact (nearest?_of_leading_lt negative decimal small).symm
  · split
    · rename_i nonzero large
      exact (nearest?_of_lt_leading negative decimal (fun zero => nonzero (.inl zero)) large).symm
    · rfl

end Decimal
end MarkdownTree
