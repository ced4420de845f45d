import MarkdownTree.Binary64.Basic

/-! The binary number nearest to an exact quotient. Halfway cases go to the even significand, and a quotient
beyond the largest finite number has none. -/

namespace MarkdownTree

/-- The whole number nearest to a quotient; a half goes to the even neighbour. -/
def roundHalfEven (numerator denominator : Nat) : Nat :=
  let quotient := numerator / denominator
  let remainder := numerator % denominator
  if 2 * remainder < denominator ∨ 2 * remainder = denominator ∧ quotient % 2 = 0 then quotient
  else quotient + 1

theorem div_le_roundHalfEven (numerator denominator : Nat) :
    numerator / denominator ≤ roundHalfEven numerator denominator := by
  grind [roundHalfEven]

theorem roundHalfEven_le_div_succ (numerator denominator : Nat) :
    roundHalfEven numerator denominator ≤ numerator / denominator + 1 := by
  grind [roundHalfEven]

/-- A whole quotient is its own nearest number. -/
theorem roundHalfEven_mul_left (value denominator : Nat) (positive : 0 < denominator) :
    roundHalfEven (value * denominator) denominator = value := by
  simp [roundHalfEven, Nat.mul_div_cancel _ positive, positive]

namespace Binary64

/-- The shift that leaves a significand of at most 53 bits. -/
def scale (quotient : Nat) : Nat :=
  quotient.log2 - 52

theorem shiftRight_scale_lt (quotient : Nat) : quotient >>> scale quotient < 0x20000000000000 := by
  rw [Nat.shiftRight_eq_div_pow]
  apply Nat.div_lt_of_lt_mul
  calc quotient < 2 ^ (quotient.log2 + 1) := Nat.lt_log2_self
    _ ≤ 2 ^ (scale quotient + 53) := Nat.pow_le_pow_right (by decide) (by unfold scale; omega)
    _ = 2 ^ scale quotient * 0x20000000000000 := Nat.pow_add 2 _ 53

theorem le_shiftRight_scale (quotient : Nat) (scaled : scale quotient ≠ 0) :
    0x10000000000000 ≤ quotient >>> scale quotient := by
  have large : quotient.log2 = 52 + scale quotient := by unfold scale at *; omega
  have nonzero : quotient ≠ 0 := by rintro rfl; simp [scale] at scaled
  rw [Nat.shiftRight_eq_div_pow, Nat.le_div_iff_mul_le (Nat.two_pow_pos _)]
  calc 0x10000000000000 * 2 ^ scale quotient = 2 ^ (52 + scale quotient) := (Nat.pow_add 2 52 _).symm
    _ = 2 ^ quotient.log2 := by rw [large]
    _ ≤ quotient := Nat.log2_self_le nonzero

theorem div_shiftLeft (numerator denominator places : Nat) :
    numerator / (denominator <<< places) = (numerator / denominator) >>> places := by
  rw [Nat.shiftLeft_eq, Nat.shiftRight_eq_div_pow, Nat.div_div_eq_div_mul]

/-- The scaled quotient rounds to 53 bits, or just above them by a carry. -/
theorem roundHalfEven_scale_le (numerator denominator : Nat) :
    roundHalfEven numerator (denominator <<< scale (numerator / denominator)) ≤ 0x20000000000000 := by
  have upper := roundHalfEven_le_div_succ numerator (denominator <<< scale (numerator / denominator))
  rw [div_shiftLeft] at upper
  exact Nat.le_trans upper (shiftRight_scale_lt _)

/-- A signed magnitude of `numerator / denominator` units, rounded to the nearest binary number. -/
def nearest? (negative : Bool) (numerator denominator : Nat) : Option Binary64 :=
  let exponent := scale (numerator / denominator)
  let significand := roundHalfEven numerator (denominator <<< exponent)
  have lower : exponent = 0 ∨ 0x10000000000000 ≤ significand := by
    by_cases scaled : exponent = 0
    · exact .inl scaled
    · have bound := le_shiftRight_scale _ scaled
      rw [← div_shiftLeft] at bound
      exact .inr (Nat.le_trans bound (div_le_roundHalfEven ..))
  if fits : significand < 0x20000000000000 then
    if finite : exponent ≤ 2045 then some ⟨negative, significand, exponent, fits, finite, lower⟩ else none
  else if finite : exponent + 1 ≤ 2045 then
    some ⟨negative, 0x10000000000000, exponent + 1, by decide, finite, .inr (Nat.le_refl _)⟩
  else none

/-- A quotient well inside the range has a nearest number. -/
theorem isSome_nearest? (negative : Bool) {numerator denominator : Nat}
    (inside : (numerator / denominator).log2 ≤ 2096) : (nearest? negative numerator denominator).isSome := by
  have scaled : scale (numerator / denominator) ≤ 2044 := by unfold scale; omega
  grind [nearest?]

/-- Every whole number of 64 bits has a nearest number. -/
theorem isSome_nearest?_of_lt (negative : Bool) {size : Nat} (limit : size < 0x10000000000000000) :
    (nearest? negative (size * unitsPerOne) 1).isSome := by
  apply isSome_nearest?
  have shifted (places : Nat) : (size * (1 <<< places) / 1).log2 ≤ 64 + places := by
    by_cases nonzero : size * (1 <<< places) / 1 = 0
    · simp [nonzero]
    · apply Nat.le_of_lt
      rw [Nat.log2_lt nonzero, Nat.div_one, Nat.shiftLeft_eq, Nat.one_mul, Nat.pow_add]
      exact Nat.mul_lt_mul_of_pos_right limit (Nat.two_pow_pos _)
  exact Nat.le_trans (shifted 1074) (by decide)

end Binary64
end MarkdownTree
