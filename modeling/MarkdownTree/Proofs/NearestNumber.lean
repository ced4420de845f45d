import Mathlib.Algebra.Order.Field.Basic
import MarkdownTree.Proofs.NumberBounds

/-! The conversion to a binary number finds the nearest one. Where two are equally near, it takes the one with the even
significand. -/

namespace MarkdownTree

section
variable {numerator denominator : Nat} (positive : 0 < denominator)
include positive

theorem roundHalfEven_error :
    2 * ((roundHalfEven numerator denominator * denominator : Nat) - numerator : Int).natAbs < denominator ∨
      2 * ((roundHalfEven numerator denominator * denominator : Nat) - numerator : Int).natAbs = denominator ∧
        roundHalfEven numerator denominator % 2 = 0 := by
  have division := Nat.div_add_mod' numerator denominator
  have short := Nat.mod_lt numerator positive
  simp only [roundHalfEven]
  split
  · omega
  · rw [Nat.add_one_mul (numerator / denominator)]
    omega

/-- Of all multiples of the denominator, that of the rounded quotient is nearest to the numerator. If another one is as
near, the rounded quotient is even. -/
theorem roundHalfEven_closest {other : Nat} (different : other ≠ roundHalfEven numerator denominator) :
    ((roundHalfEven numerator denominator * denominator : Nat) - numerator : Int).natAbs <
        ((other * denominator : Nat) - numerator : Int).natAbs ∨
      ((roundHalfEven numerator denominator * denominator : Nat) - numerator : Int).natAbs =
          ((other * denominator : Nat) - numerator : Int).natAbs ∧
        roundHalfEven numerator denominator % 2 = 0 := by
  have error := @roundHalfEven_error numerator denominator positive
  generalize roundHalfEven numerator denominator = rounded at different error ⊢
  have apart : other * denominator + denominator ≤ rounded * denominator ∨
      rounded * denominator + denominator ≤ other * denominator := by
    rw [← Nat.succ_mul, ← Nat.succ_mul]
    rcases Nat.lt_or_gt_of_ne different with below | above
    · exact .inl (Nat.mul_le_mul_right denominator below)
    · exact .inr (Nat.mul_le_mul_right denominator above)
  omega

end

namespace Binary64

theorem magnitude_grid (number : Binary64) (places : Nat) :
    (∃ count, number.magnitude = count <<< places) ∨
      places ≠ 0 ∧ number.magnitude < 0x10000000000000 <<< places := by
  simp only [magnitude, Nat.shiftLeft_eq]
  rcases Nat.lt_or_ge number.exponent places with short | long
  · refine .inr ⟨by omega, ?_⟩
    calc number.significand * 2 ^ number.exponent
        < 0x20000000000000 * 2 ^ number.exponent :=
          Nat.mul_lt_mul_of_pos_right number.significand_lt (Nat.two_pow_pos _)
      _ = 0x10000000000000 * 2 ^ (number.exponent + 1) := by rw [Nat.pow_succ']; omega
      _ ≤ 0x10000000000000 * 2 ^ places := Nat.mul_le_mul_left _ (Nat.pow_le_pow_right (by decide) short)
  · obtain ⟨rest, exponent⟩ := Nat.exists_eq_add_of_le long
    refine .inl ⟨number.significand * 2 ^ rest, ?_⟩
    rw [exponent, Nat.pow_add, Nat.mul_assoc, Nat.mul_comm (2 ^ rest)]

/-- The significand is as even as the quotient that was rounded to it, also after a carry, when both are even. -/
theorem significand_nearest? {negative : Bool} {numerator denominator : Nat} {number : Binary64}
    (nearest : nearest? negative numerator denominator = some number) :
    number.significand % 2 = roundHalfEven numerator (denominator <<< scale (numerator / denominator)) % 2 := by
  have bound := roundHalfEven_scale_le numerator denominator
  simp only [nearest?] at nearest
  split at nearest
  next fits =>
    split at nearest
    · cases nearest
      rfl
    · cases nearest
  next carried =>
    split at nearest
    · cases nearest
      dsimp only
      omega
    · cases nearest

variable {negative : Bool} {numerator denominator : Nat} {number : Binary64}

theorem magnitude_closest (positive : 0 < denominator)
    (nearest : nearest? negative numerator denominator = some number) {other : Binary64}
    (different : other.magnitude ≠ number.magnitude) :
    ((number.magnitude * denominator : Nat) - numerator : Int).natAbs <
        ((other.magnitude * denominator : Nat) - numerator : Int).natAbs ∨
      ((number.magnitude * denominator : Nat) - numerator : Int).natAbs =
          ((other.magnitude * denominator : Nat) - numerator : Int).natAbs ∧
        number.significand % 2 = 0 := by
  rw [(magnitude_nearest? nearest).2] at different ⊢
  rw [significand_nearest? nearest]
  have full := le_shiftRight_scale (numerator / denominator)
  rw [← div_shiftLeft] at full
  generalize scale (numerator / denominator) = places at different full ⊢
  have scaledPositive : 0 < denominator <<< places := by
    rw [Nat.shiftLeft_eq]
    exact Nat.mul_pos positive (Nat.two_pow_pos _)
  have shift (count : Nat) : count <<< places * denominator = count * denominator <<< places := by
    rw [Nat.shiftLeft_eq, Nat.shiftLeft_eq, Nat.mul_assoc, Nat.mul_comm denominator]
  rw [shift]
  rcases other.magnitude_grid places with ⟨count, multiple⟩ | ⟨scaled, short⟩
  · have different : count ≠ roundHalfEven numerator (denominator <<< places) := by
      rintro rfl
      exact different multiple
    rw [multiple, shift]
    exact roundHalfEven_closest scaledPositive different
  · -- The other magnitude lies below the least significand of 53 bits, and that below the quotient.
    have least : 0x10000000000000 * denominator <<< places ≤ numerator :=
      (Nat.le_div_iff_mul_le scaledPositive).1 (full scaled)
    have below : other.magnitude * denominator < 0x10000000000000 * denominator <<< places := by
      rw [← shift]
      exact Nat.mul_lt_mul_of_pos_right short positive
    left
    by_cases same : 0x10000000000000 = roundHalfEven numerator (denominator <<< places)
    · rw [← same]
      omega
    · have closest := roundHalfEven_closest scaledPositive same
      omega

theorem units_closest (positive : 0 < denominator)
    (nearest : nearest? negative numerator denominator = some number) {other : Binary64}
    (different : other.units ≠ number.units) :
    let target : Int := if negative then -numerator else numerator
    (number.units * denominator - target).natAbs < (other.units * denominator - target).natAbs ∨
      (number.units * denominator - target).natAbs = (other.units * denominator - target).natAbs ∧
        number.significand % 2 = 0 := by
  intro target
  have sign := (magnitude_nearest? nearest).1
  have closest (candidate : Binary64) (different : candidate.magnitude ≠ number.magnitude) :=
    magnitude_closest positive nearest different
  have nearerThanZero : ((number.magnitude * denominator : Nat) - numerator : Int).natAbs ≤ numerator := by
    have origin : (zero false).magnitude = 0 := rfl
    by_cases none : number.magnitude = 0
    · simp [none]
    · have closest := closest (zero false) (by omega)
      rw [origin] at closest
      omega
  have closest := closest other
  have grown := Nat.le_mul_of_pos_right other.magnitude positive
  have signed (candidate : Binary64) : candidate.units * denominator =
      if candidate.negative then -((candidate.magnitude * denominator : Nat) : Int)
      else (candidate.magnitude * denominator : Nat) := by
    cases held : candidate.negative <;> simp [units, held]
  simp only [units, sign] at different
  rw [signed, signed, sign]
  cases negative <;> cases held : other.negative <;>
    simp only [target, held, if_true, if_false, Bool.false_eq_true] at different ⊢ <;> omega

/-- No binary number is nearer to an exact value, and if another one is as near, the significand is even. -/
structure IsNearest (number : Binary64) (target : ℚ) : Prop where
  closest : ∀ other : Binary64, |number.value - target| ≤ |other.value - target|
  even : ∀ other : Binary64, other.value ≠ number.value →
    |other.value - target| = |number.value - target| → number.significand % 2 = 0

private theorem abs_value_sub (positive : 0 < denominator) (number : Binary64) (target : Int) :
    |number.value - target / (denominator * unitsPerOne : ℚ)| =
      (number.units * denominator - target).natAbs / (denominator * unitsPerOne : ℚ) := by
  have unit : (0 : ℚ) < unitsPerOne := by exact_mod_cast unitsPerOne_pos
  have divisor : (0 : ℚ) < denominator := by exact_mod_cast positive
  have common : number.value - target / (denominator * unitsPerOne : ℚ) =
      ((number.units * denominator - target : Int) : ℚ) / (denominator * unitsPerOne) := by
    rw [value, Int.cast_sub, Int.cast_mul, Int.cast_natCast, sub_div, mul_comm (denominator : ℚ),
      mul_div_mul_right _ _ divisor.ne']
  rw [common, abs_div, abs_of_pos (mul_pos divisor unit), Nat.cast_natAbs, Int.cast_abs]

theorem isNearest_nearest? (positive : 0 < denominator)
    (nearest : nearest? negative numerator denominator = some number) :
    number.IsNearest ((if negative then -numerator else numerator : Int) / (denominator * unitsPerOne : ℚ)) := by
  have unit : (0 : ℚ) < unitsPerOne := by exact_mod_cast unitsPerOne_pos
  have divisor : (0 : ℚ) < denominator * unitsPerOne := mul_pos (by exact_mod_cast positive) unit
  constructor
  · intro other
    rw [abs_value_sub positive, abs_value_sub positive, div_le_div_iff_of_pos_right divisor, Nat.cast_le]
    by_cases same : other.units = number.units
    · rw [same]
    · have closest := units_closest positive nearest same
      omega
  · intro other different tie
    rw [abs_value_sub positive, abs_value_sub positive, div_left_inj' divisor.ne', Nat.cast_inj] at tie
    have closest := units_closest positive nearest fun same => different (by rw [value, same, value])
    omega

theorem isNearest_value (number : Binary64) : number.IsNearest number.value := by
  constructor
  · intro other
    simp
  · intro other different tie
    rw [sub_self, abs_zero, abs_eq_zero, sub_eq_zero] at tie
    exact absurd tie different

end Binary64

namespace Json.Number
open Binary64

theorem isNearest_toBinary64 (number : Number) : number.toBinary64.IsNearest number.value := by
  cases number with
  | float nearest => exact nearest.isNearest_value
  | integer value least limit =>
    have nearest : nearest? (value < 0) (value.natAbs * unitsPerOne) 1 =
        some (toBinary64 (.integer value least limit)) := by
      rw [toBinary64, Option.some_get]
    have unit : (unitsPerOne : ℚ) ≠ 0 := by exact_mod_cast unitsPerOne_pos.ne'
    have signed : (if decide (value < 0) = true then -((value.natAbs * unitsPerOne : Nat) : Int)
        else (value.natAbs * unitsPerOne : Nat)) = value * unitsPerOne := by
      by_cases below : value < 0
      · simp [below, abs_of_neg below]
      · simp [below, abs_of_nonneg (Int.not_lt.1 below)]
    have found := isNearest_nearest? Nat.one_pos nearest
    rw [signed, Nat.cast_one, one_mul, Int.cast_mul, Int.cast_natCast, mul_div_cancel_right₀ _ unit] at found
    exact found

-- Halfway between two binary numbers the last digit is lost to the even one.
example : toBinary64 (.integer 0x20000000000001 (by decide) (by decide)) =
    toBinary64 (.integer 0x20000000000000 (by decide) (by decide)) := by
  decide +kernel

end Json.Number
end MarkdownTree
