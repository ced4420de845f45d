/-! Sets of characters as ranges of code points. -/

namespace MarkdownTree

/-- Closed ranges of code points, by ascending first code point. -/
abbrev CodeRanges := List (Nat × Nat)

namespace CodeRanges

def contains (ranges : CodeRanges) (char : Char) : Bool :=
  ranges.any fun (first, last) => first ≤ char.toNat && char.toNat ≤ last

end CodeRanges
end MarkdownTree
