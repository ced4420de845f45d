import MarkdownTree.Decimal.Basic

/-! Decimals as text, in positional or in scientific form. -/

namespace MarkdownTree

/-- Which decimals are written in full: those whose leading digit stands for a power of ten in this range. -/
structure Layout where
  least : Int
  limit : Int

namespace Layout

/-- The digits from the leading one to the last that is not zero. -/
def significant (decimal : Decimal) : List Char :=
  (decimal.text.reverse.dropWhile (· == '0')).reverse

/-- A point between the ones and the tenths, with at least one digit on either side. -/
def positional (digits : List Char) (leading : Int) : List Char :=
  if leading < 0 then '0' :: '.' :: List.replicate (-leading - 1).toNat '0' ++ digits
  else
    let whole := leading.toNat + 1
    digits.take whole ++ List.replicate (whole - digits.length) '0' ++ '.' ::
      (if digits.length ≤ whole then ['0'] else digits.drop whole)

/-- One digit, the others after a point, and the power of ten with its sign. -/
def scientific (digits : List Char) (leading : Int) : List Char :=
  let fraction := if digits.length ≤ 1 then [] else '.' :: digits.drop 1
  let sign := if leading < 0 then '-' else '+'
  digits.take 1 ++ fraction ++ 'e' :: sign :: Nat.toDigits 10 leading.natAbs

def render (layout : Layout) (decimal : Decimal) : List Char :=
  if decimal.digits = 0 then ['0', '.', '0']
  else if layout.least ≤ decimal.leading ∧ decimal.leading < layout.limit then
    positional (significant decimal) decimal.leading
  else scientific (significant decimal) decimal.leading

end Layout
end MarkdownTree
