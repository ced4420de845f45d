/-! Finite 64-bit binary numbers, held exactly: a sign and a whole number of units of `2 ^ -1074`. -/

namespace MarkdownTree

/-- A finite 64-bit binary number: a significand of up to 53 bits, shifted left, and a sign. The normal form, in
which only an unshifted significand has fewer bits, makes equality agreement in sign and value. -/
structure Binary64 where
  negative : Bool
  significand : Nat
  exponent : Nat
  significand_lt : significand < 0x20000000000000
  exponent_le : exponent ≤ 2045
  normalized : exponent = 0 ∨ 0x10000000000000 ≤ significand
  deriving DecidableEq

namespace Binary64

/-- The number of units in one. -/
def unitsPerOne : Nat :=
  1 <<< 1074

/-- The distance from zero, in units. -/
def magnitude (number : Binary64) : Nat :=
  number.significand <<< number.exponent

/-- The value in units. Both zeros have the value zero. -/
def units (number : Binary64) : Int :=
  if number.negative then -(number.magnitude : Int) else number.magnitude

def zero (negative : Bool) : Binary64 where
  negative := negative
  significand := 0
  exponent := 0
  significand_lt := by decide
  exponent_le := by decide
  normalized := .inl rfl

/-- Comparison with a whole number is by value, so `-0.0` is at least zero. -/
def atLeast (number : Binary64) (bound : Nat) : Bool :=
  ((bound * unitsPerOne : Nat) : Int) ≤ number.units

def atMost (number : Binary64) (bound : Nat) : Bool :=
  number.units ≤ ((bound * unitsPerOne : Nat) : Int)

@[simp] theorem units_zero (negative : Bool) : (zero negative).units = 0 := by
  cases negative <;> simp [zero, units, magnitude]

end Binary64
end MarkdownTree
