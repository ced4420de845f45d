import Mathlib.Algebra.Order.Field.Rat
import Mathlib.Data.Rat.Cast.Order
import MarkdownTree.Json.Number.Basic

/-! A bound below `2 ^ 53` is decided alike for a number and for the binary number nearest to it. Integers below that
size convert exactly, and larger ones do not fall below it. -/

namespace MarkdownTree

namespace Binary64

/-- The exact value, which both zeros share. -/
def value (number : Binary64) : ℚ :=
  number.units / unitsPerOne

theorem unitsPerOne_pos : 0 < unitsPerOne := by
  decide +kernel

private theorem mul_one_shiftLeft (size places : Nat) : size * (1 <<< places) = size <<< places := by
  simp only [Nat.shiftLeft_eq, Nat.one_mul]

theorem mul_unitsPerOne (size : Nat) : size * unitsPerOne = size <<< 1074 := by
  rw [unitsPerOne, mul_one_shiftLeft]

theorem magnitude_nearest? {negative : Bool} {numerator denominator : Nat} {number : Binary64}
    (nearest : nearest? negative numerator denominator = some number) :
    number.negative = negative ∧
      number.magnitude = roundHalfEven numerator (denominator <<< scale (numerator / denominator)) <<<
        scale (numerator / denominator) := by
  have bound := roundHalfEven_scale_le numerator denominator
  simp only [nearest?] at nearest
  split at nearest
  next fits =>
    split at nearest
    · cases nearest
      exact ⟨rfl, rfl⟩
    · cases nearest
  next carried =>
    have full : roundHalfEven numerator (denominator <<< scale (numerator / denominator)) = 0x20000000000000 :=
      Nat.le_antisymm bound (Nat.le_of_not_lt carried)
    split at nearest
    · cases nearest
      refine ⟨rfl, ?_⟩
      rw [full, Nat.shiftLeft_eq, ← show 0x10000000000000 * 2 = 0x20000000000000 from by decide, Nat.mul_assoc,
        ← Nat.pow_succ', ← Nat.shiftLeft_eq]
      rfl
    · cases nearest

theorem magnitude_nearest?_of_lt {negative : Bool} {size places : Nat} {number : Binary64}
    (small : size < 0x20000000000000) (nearest : nearest? negative (size <<< places) 1 = some number) :
    number.magnitude = size <<< places := by
  rw [(magnitude_nearest? nearest).2, Nat.div_one]
  have fits : scale (size <<< places) ≤ places := by
    by_cases zero : size <<< places = 0
    · simp [zero, scale]
    · have bits : (size <<< places).log2 < 53 + places := by
        rw [Nat.log2_lt zero, Nat.shiftLeft_eq, Nat.pow_add]
        exact Nat.mul_lt_mul_of_pos_right small (Nat.two_pow_pos _)
      unfold scale
      omega
  generalize scale (size <<< places) = exponent at fits ⊢
  obtain ⟨rest, rfl⟩ := Nat.exists_eq_add_of_le fits
  have whole : size <<< (exponent + rest) = (size <<< rest) * (1 <<< exponent) := by
    simp only [Nat.shiftLeft_eq, Nat.one_mul, Nat.pow_add]
    rw [Nat.mul_assoc, Nat.mul_comm (2 ^ rest)]
  rw [whole, roundHalfEven_mul_left _ _ (Nat.le_trans Nat.one_pos (Nat.le_shiftLeft ..)), Nat.shiftLeft_eq,
    Nat.shiftLeft_eq 1, Nat.one_mul]

theorem le_magnitude_nearest? {negative : Bool} {size places : Nat} {number : Binary64}
    (large : 0x20000000000000 ≤ size) (nearest : nearest? negative (size <<< places) 1 = some number) :
    0x20000000000000 <<< places ≤ number.magnitude := by
  have nonzero : size <<< places ≠ 0 := by
    have grown : size ≤ size <<< places := Nat.le_shiftLeft
    omega
  have longer : 53 + places ≤ (size <<< places).log2 := by
    rw [Nat.le_log2 nonzero, Nat.shiftLeft_eq, Nat.pow_add]
    exact Nat.mul_le_mul_right _ large
  have scaled : scale (size <<< places) ≠ 0 := by unfold scale; omega
  rw [(magnitude_nearest? nearest).2, Nat.div_one]
  calc 0x20000000000000 <<< places = 2 ^ (53 + places) := by rw [Nat.shiftLeft_eq, Nat.pow_add]
    _ ≤ 2 ^ (52 + scale (size <<< places)) := Nat.pow_le_pow_right (by decide) (by unfold scale; omega)
    _ = 0x10000000000000 <<< scale (size <<< places) := by rw [Nat.shiftLeft_eq _ (scale _), Nat.pow_add]
    _ ≤ _ := by
      rw [Nat.shiftLeft_eq, Nat.shiftLeft_eq _ (scale _)]
      apply Nat.mul_le_mul_right
      calc 0x10000000000000 ≤ (size <<< places) >>> scale (size <<< places) := le_shiftRight_scale _ scaled
        _ = (size <<< places) / (1 <<< scale (size <<< places)) := by rw [div_shiftLeft, Nat.div_one]
        _ ≤ _ := div_le_roundHalfEven ..

theorem atLeast_iff {number : Binary64} {bound : ℕ} : number.atLeast bound = true ↔ (bound : ℚ) ≤ number.value := by
  have positive : (0 : ℚ) < unitsPerOne := by exact_mod_cast unitsPerOne_pos
  rw [atLeast, decide_eq_true_iff, value, le_div_iff₀ positive]
  exact_mod_cast Iff.rfl

theorem atMost_iff {number : Binary64} {bound : ℕ} : number.atMost bound = true ↔ number.value ≤ (bound : ℚ) := by
  have positive : (0 : ℚ) < unitsPerOne := by exact_mod_cast unitsPerOne_pos
  rw [atMost, decide_eq_true_iff, value, div_le_iff₀ positive]
  exact_mod_cast Iff.rfl

end Binary64

namespace Json.Number
open Binary64

/-- The exact value, also of an integer that no binary number has. -/
def value : Number → ℚ
  | .integer value _ _ => value
  | .float nearest => nearest.value

private theorem nearest?_integer {value : Int} (least limit) :
    nearest? (value < 0) (value.natAbs <<< 1074) 1 = some (toBinary64 (.integer value least limit)) := by
  rw [← mul_unitsPerOne, toBinary64, Option.some_get]

/-- Against a small bound an integer and its binary number stand alike: either they are equal, or both are far
beyond it on the same side. -/
private theorem units_integer {value : Int} (least limit) :
    (toBinary64 (.integer value least limit)).units = value * unitsPerOne ∨
    0x20000000000000 ≤ value ∧
      0x20000000000000 * (unitsPerOne : Int) ≤ (toBinary64 (.integer value least limit)).units ∨
    value < 0 ∧ (toBinary64 (.integer value least limit)).units < 0 := by
  have nearest := nearest?_integer least limit
  have sign := (magnitude_nearest? nearest).1
  have positive := unitsPerOne_pos
  rw [units, sign]
  by_cases small : value.natAbs < 0x20000000000000
  · have size := magnitude_nearest?_of_lt small nearest
    rw [← mul_unitsPerOne] at size
    left
    rw [size, Nat.cast_mul]
    by_cases below : value < 0
    · simp only [below, decide_true, if_true]
      rw [← Int.neg_mul]
      congr 1
      omega
    · simp only [below, decide_false, Bool.false_eq_true, if_false]
      congr 1
      omega
  · have size := le_magnitude_nearest? (Nat.le_of_not_lt small) nearest
    rw [← mul_unitsPerOne] at size
    right
    by_cases below : value < 0
    · right
      simp only [below, decide_true, if_true, true_and]
      omega
    · left
      simp only [below, decide_false, Bool.false_eq_true, if_false]
      exact ⟨by omega, by exact_mod_cast size⟩

private theorem units_integer_bounds {value : Int} (least limit) {bound : ℕ} (small : bound < 0x20000000000000) :
    ((bound : Int) * unitsPerOne ≤ (toBinary64 (.integer value least limit)).units ↔ (bound : Int) ≤ value) ∧
    ((toBinary64 (.integer value least limit)).units ≤ (bound : Int) * unitsPerOne ↔ value ≤ (bound : Int)) := by
  have positive : (0 : Int) < unitsPerOne := by exact_mod_cast unitsPerOne_pos
  have nonnegative : 0 ≤ (bound : Int) * unitsPerOne := Int.mul_nonneg (by omega) positive.le
  have inside : (bound : Int) * unitsPerOne < 0x20000000000000 * unitsPerOne :=
    Int.mul_lt_mul_of_pos_right (by omega) positive
  rcases units_integer least limit with same | ⟨large, beyond⟩ | ⟨negative, below⟩
  · rw [same, mul_le_mul_iff_left₀ positive, mul_le_mul_iff_left₀ positive]
    exact ⟨Iff.rfl, Iff.rfl⟩
  · exact ⟨⟨fun _ => by omega, fun _ => by omega⟩, ⟨fun _ => by omega, fun _ => by omega⟩⟩
  · exact ⟨⟨fun _ => by omega, fun _ => by omega⟩, ⟨fun _ => by omega, fun _ => by omega⟩⟩

theorem atLeast_iff (number : Number) {bound : ℕ} (small : bound < 0x20000000000000) :
    number.atLeast bound = true ↔ (bound : ℚ) ≤ number.value := by
  cases number with
  | float nearest => exact Binary64.atLeast_iff
  | integer value least limit =>
    have exact : (bound : ℚ) ≤ (Number.integer value least limit).value ↔ (bound : Int) ≤ value := by
      rw [Number.value]
      exact_mod_cast Iff.rfl
    rw [exact, atLeast, Binary64.atLeast, decide_eq_true_iff, Nat.cast_mul]
    exact (units_integer_bounds least limit small).1

theorem atMost_iff (number : Number) {bound : ℕ} (small : bound < 0x20000000000000) :
    number.atMost bound = true ↔ number.value ≤ (bound : ℚ) := by
  cases number with
  | float nearest => exact Binary64.atMost_iff
  | integer value least limit =>
    have exact : (Number.integer value least limit).value ≤ (bound : ℚ) ↔ value ≤ (bound : Int) := by
      rw [Number.value]
      exact_mod_cast Iff.rfl
    rw [exact, atMost, Binary64.atMost, decide_eq_true_iff, Nat.cast_mul]
    exact (units_integer_bounds least limit small).2

end Json.Number
end MarkdownTree
