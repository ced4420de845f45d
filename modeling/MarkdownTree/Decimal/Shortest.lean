import MarkdownTree.Decimal.Basic

/-! The shortest decimal that reads back to a given binary number, and of the shortest the nearest.

Every binary number has an exact decimal expansion with 1074 places. On the grid of decimals with a given number
of digits, only the two neighbours of that expansion can read back, and the first grid with a hit wins. -/

namespace MarkdownTree.Binary64

/-- The distance from zero as an exact decimal. -/
def expansion (number : Binary64) : Decimal :=
  ⟨number.magnitude * Nat.pow 5 1074, -1074⟩

/-- The neighbours of a decimal on the grid that leaves out its last digits, the nearer one first. -/
def neighbours (exact : Decimal) (omitted : Nat) : List Decimal :=
  let step := Nat.pow 10 omitted
  [roundHalfEven exact.digits step, exact.digits / step, exact.digits / step + 1].map
    (⟨·, exact.exponent + omitted⟩)

/-- The fewest digits that read back. Seventeen always do; the exact expansion is the last resort. -/
def shortest (number : Binary64) : Decimal :=
  let exact := number.expansion
  let length := exact.text.length
  let hit := (List.range' 1 17).findSome? fun count =>
    (neighbours exact (length - count)).find? (·.nearest? number.negative = some number)
  hit.getD exact

end MarkdownTree.Binary64
