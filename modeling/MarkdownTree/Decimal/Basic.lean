import MarkdownTree.Binary64.Rounding

/-! Decimal numbers without a sign, and the binary number nearest to one. -/

namespace MarkdownTree

/-- The number `digits * 10 ^ exponent`. -/
structure Decimal where
  digits : Nat
  exponent : Int
  deriving DecidableEq

namespace Decimal

/-- The value is `numerator / denominator`. -/
def numerator (decimal : Decimal) : Nat :=
  decimal.digits * Nat.pow 10 decimal.exponent.toNat

def denominator (decimal : Decimal) : Nat :=
  Nat.pow 10 (-decimal.exponent).toNat

def nearest? (negative : Bool) (decimal : Decimal) : Option Binary64 :=
  Binary64.nearest? negative (decimal.numerator * Binary64.unitsPerOne) decimal.denominator

/-- The digits as text, the leading one first. -/
def text (decimal : Decimal) : List Char :=
  Nat.toDigits 10 decimal.digits

/-- The power of ten of the leading digit. -/
def leading (decimal : Decimal) : Int :=
  decimal.exponent + decimal.text.length - 1

end Decimal
end MarkdownTree
