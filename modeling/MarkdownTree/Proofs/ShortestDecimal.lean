import MarkdownTree.Decimal.Range
import MarkdownTree.Decimal.Shortest
import MarkdownTree.Proofs.NumberBounds

/-! The shortest decimal of a binary number reads back to it. A nearest binary number depends only on the value of a
decimal, not on how many zeros it is written with. -/

namespace MarkdownTree

theorem roundHalfEven_mul_right (numerator denominator : Nat) {factor : Nat} (positive : 0 < factor) :
    roundHalfEven (numerator * factor) (denominator * factor) = roundHalfEven numerator denominator := by
  have quotient : numerator * factor / (denominator * factor) = numerator / denominator :=
    Nat.mul_div_mul_right _ _ positive
  have remainder : numerator * factor % (denominator * factor) = numerator % denominator * factor :=
    Nat.mul_mod_mul_right ..
  have less : 2 * (numerator % denominator * factor) < denominator * factor ↔
      2 * (numerator % denominator) < denominator := by
    rw [← Nat.mul_assoc, Nat.mul_lt_mul_right positive]
  have half : 2 * (numerator % denominator * factor) = denominator * factor ↔
      2 * (numerator % denominator) = denominator := by
    rw [← Nat.mul_assoc, Nat.mul_right_cancel_iff positive]
  simp only [roundHalfEven, quotient, remainder, less, half]

namespace Binary64

theorem nearest?_mul_right (negative : Bool) (numerator denominator : Nat) {factor : Nat} (positive : 0 < factor) :
    nearest? negative (numerator * factor) (denominator * factor) = nearest? negative numerator denominator := by
  have quotient : numerator * factor / (denominator * factor) = numerator / denominator :=
    Nat.mul_div_mul_right _ _ positive
  have rounded (places : Nat) : roundHalfEven (numerator * factor) ((denominator * factor) <<< places) =
      roundHalfEven numerator (denominator <<< places) := by
    rw [Nat.shiftLeft_eq, Nat.mul_right_comm, ← Nat.shiftLeft_eq, roundHalfEven_mul_right _ _ positive]
  simp only [nearest?, quotient, rounded]

theorem nearest?_congr (negative : Bool) {numerator denominator other divisor : Nat} (positive : 0 < denominator)
    (positiveOther : 0 < divisor) (same : numerator * divisor = other * denominator) :
    nearest? negative numerator denominator = nearest? negative other divisor := by
  rw [← nearest?_mul_right negative numerator denominator positiveOther, same, Nat.mul_comm denominator,
    nearest?_mul_right negative other divisor positive]

theorem nearest?_magnitude (number : Binary64) : nearest? number.negative number.magnitude 1 = some number := by
  obtain ⟨negative, significand, exponent, fits, finite, normalized⟩ := number
  have scaled : scale (significand <<< exponent) = exponent := by
    obtain rfl | full := normalized
    · by_cases zero : significand = 0
      · simp [zero, scale]
      · have bits : significand.log2 < 53 := (Nat.log2_lt zero).2 fits
        simp only [scale, Nat.shiftLeft_zero]
        omega
    · have bits : (significand <<< exponent).log2 = 52 + exponent := by
        have positive : 0 < significand * 2 ^ exponent := Nat.mul_pos (by omega) (Nat.two_pow_pos exponent)
        rw [Nat.shiftLeft_eq, Nat.log2_eq_iff (Nat.pos_iff_ne_zero.1 positive), Nat.add_right_comm, Nat.pow_add,
          Nat.pow_add]
        exact ⟨Nat.mul_le_mul_right _ full, Nat.mul_lt_mul_of_pos_right fits (Nat.two_pow_pos exponent)⟩
      rw [scale, bits, Nat.add_sub_cancel_left]
  have exact : roundHalfEven (significand <<< exponent) (1 <<< exponent) = significand := by
    rw [Nat.shiftLeft_eq, Nat.shiftLeft_eq, Nat.one_mul]
    exact roundHalfEven_mul_left _ _ (Nat.two_pow_pos exponent)
  simp [nearest?, magnitude, scaled, exact, fits, finite]

end Binary64

namespace Decimal

/-- The same value with some zeros behind the digits. -/
def extend (decimal : Decimal) (places : Nat) : Decimal :=
  ⟨decimal.digits * Nat.pow 10 places, decimal.exponent - places⟩

theorem nearest?_extend (decimal : Decimal) (places : Nat) (negative : Bool) :
    (decimal.extend places).nearest? negative = decimal.nearest? negative := by
  apply Binary64.nearest?_congr negative (denominator_pos _) (denominator_pos _)
  have powers : Nat.pow 10 places * Nat.pow 10 (decimal.exponent - places).toNat *
        Nat.pow 10 (-decimal.exponent).toNat =
      Nat.pow 10 decimal.exponent.toNat * Nat.pow 10 (-(decimal.exponent - places)).toNat := by
    simp only [Nat.pow_eq, ← Nat.pow_add]
    congr 1
    omega
  simp only [numerator, denominator, extend]
  calc decimal.digits * Nat.pow 10 places * Nat.pow 10 (decimal.exponent - places).toNat * Binary64.unitsPerOne *
        Nat.pow 10 (-decimal.exponent).toNat
      = decimal.digits * Binary64.unitsPerOne * (Nat.pow 10 places * Nat.pow 10 (decimal.exponent - places).toNat *
          Nat.pow 10 (-decimal.exponent).toNat) := by ac_rfl
    _ = decimal.digits * Nat.pow 10 decimal.exponent.toNat * Binary64.unitsPerOne *
          Nat.pow 10 (-(decimal.exponent - places)).toNat := by rw [powers]; ac_rfl

theorem nearest?_of_digits_eq_zero {decimal : Decimal} (zero : decimal.digits = 0) (negative : Bool) :
    decimal.nearest? negative = some (.zero negative) := by
  rw [nearest?, numerator, zero, Nat.zero_mul, Nat.zero_mul]
  exact Binary64.nearest?_eq_zero negative decimal.denominator_pos

end Decimal

namespace Binary64

theorem nearest?_places (size places : Nat) (negative : Bool) :
    nearest? negative ((Decimal.mk (size * Nat.pow 5 places) (-places)).numerator * (1 <<< places))
      (Decimal.mk (size * Nat.pow 5 places) (-places)).denominator = nearest? negative size 1 := by
  apply nearest?_congr negative (Decimal.denominator_pos _) Nat.one_pos
  have powers : Nat.pow 5 places * 1 <<< places = Nat.pow 10 places := by
    rw [Nat.shiftLeft_eq, Nat.one_mul]
    exact (Nat.mul_pow 5 2 places).symm
  have whole : (-(places : Int)).toNat = 0 := by omega
  have fraction : (- -(places : Int)).toNat = places := by omega
  simp only [Decimal.numerator, Decimal.denominator, whole, fraction]
  rw [show Nat.pow 10 0 = 1 from rfl, Nat.mul_one, Nat.mul_one, Nat.mul_assoc, powers]

/-- The expansion has the value of the number, so that it reads back to it. -/
theorem nearest?_expansion (number : Binary64) : number.expansion.nearest? number.negative = some number := by
  rw [Decimal.nearest?, expansion, unitsPerOne, show (1074 : Int) = (1074 : Nat) from rfl]
  -- The number of places does not matter, and its powers are never computed.
  generalize (1074 : Nat) = places
  rw [nearest?_places, nearest?_magnitude]

theorem nearest?_shortest (number : Binary64) : number.shortest.nearest? number.negative = some number := by
  unfold shortest
  dsimp only
  cases hit : (List.range' 1 17).findSome? fun count =>
      (neighbours number.expansion (number.expansion.text.length - count)).find?
        (·.nearest? number.negative = some number) with
  | none => exact number.nearest?_expansion
  | some decimal =>
    obtain ⟨count, -, found⟩ := List.exists_of_findSome?_eq_some hit
    simpa using List.find?_some found

theorem eq_of_value_eq {number other : Binary64} (sign : number.negative = other.negative)
    (value : number.value = other.value) : number = other := by
  have positive : (unitsPerOne : ℚ) ≠ 0 := by exact_mod_cast Nat.pos_iff_ne_zero.1 unitsPerOne_pos
  have units : number.units = other.units := by
    rw [Binary64.value, Binary64.value, div_left_inj' positive] at value
    exact_mod_cast value
  have magnitude : number.magnitude = other.magnitude := by
    unfold Binary64.units at units
    rw [sign] at units
    split at units <;> omega
  have nearest := number.nearest?_magnitude
  rw [sign, magnitude, nearest?_magnitude] at nearest
  exact (Option.some.inj nearest).symm

end Binary64
end MarkdownTree
