import MarkdownTree.Binary64.Rounding

/-! JSON numbers: exact integers of 64 bits, and finite binary numbers for the rest.

The two never coincide, so `1` and `1.0` are different numbers of the same size. -/

namespace MarkdownTree.Json

/-- Integers range over the signed and the unsigned words of 64 bits together. -/
inductive Number
  | integer (value : Int) (least : -0x8000000000000000 ≤ value) (limit : value < 0x10000000000000000)
  | float (value : Binary64)
  deriving DecidableEq

namespace Number

def ofInt? (value : Int) : Option Number :=
  if bounds : -0x8000000000000000 ≤ value ∧ value < 0x10000000000000000 then
    some (.integer value bounds.1 bounds.2)
  else none

/-- The number as a binary number. An integer of more than 53 bits may lose low digits. -/
def toBinary64 : Number → Binary64
  | .integer value least limit =>
    (Binary64.nearest? (value < 0) (value.natAbs * Binary64.unitsPerOne) 1).get
      (Binary64.isSome_nearest?_of_lt _ (by omega))
  | .float value => value

/-- Bounds are compared after conversion to a binary number. -/
def atLeast (number : Number) (bound : Nat) : Bool :=
  number.toBinary64.atLeast bound

def atMost (number : Number) (bound : Nat) : Bool :=
  number.toBinary64.atMost bound

end Number
end MarkdownTree.Json
