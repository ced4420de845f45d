import MarkdownTree.Decimal.Layout
import MarkdownTree.Decimal.Range
import MarkdownTree.Decimal.Shortest
import MarkdownTree.Json.Number.Basic

/-! Numbers as JSON text. A whole number without point or exponent is an integer where it fits the words of 64
bits, and every other numeral is the nearest binary number. -/

namespace MarkdownTree.Json

namespace Number

/-- Numbers from `0.00001` up to ten quadrillion are written in full. -/
def layout : Layout where
  least := -5
  limit := 16

/-- The text of a number. Only a binary number has a point or an exponent. -/
def chars : Number → List Char
  | .integer value _ _ => (if value < 0 then ['-'] else []) ++ Nat.toDigits 10 value.natAbs
  | .float value => (if value.negative then ['-'] else []) ++ layout.render value.shortest

end Number

/-- A number as it is spelled: the digits before and after the point, and the power of ten. -/
structure Numeral where
  negative : Bool
  whole : List Char
  fraction : List Char
  exponent : Option Int

namespace Numeral

/-- The digits at the front, of which there is at least one, and the rest. -/
def digits? (text : List Char) : Option (List Char × List Char) :=
  match text.span Char.isDigit with
  | ([], _) => none
  | digitsAndRest => some digitsAndRest

/-- Digits without a leading zero, unless zero is all there is. -/
def whole? (text : List Char) : Option (List Char × List Char) :=
  match digits? text with
  | some ('0' :: _ :: _, _) => none
  | wholeAndRest => wholeAndRest

def fraction? : List Char → Option (List Char × List Char)
  | '.' :: text => digits? text
  | text => some ([], text)

/-- A sign before a number, and the rest. -/
def sign : List Char → Bool × List Char
  | '-' :: text => (true, text)
  | '+' :: text => (false, text)
  | text => (false, text)

/-- The power of ten, which ends a numeral. -/
def exponent? : List Char → Option (Option Int)
  | [] => some none
  | mark :: text =>
    if mark = 'e' ∨ mark = 'E' then
      match digits? (sign text).2 with
      | some (digits, []) =>
        let size := (Nat.ofDigitChars 10 digits 0 : Int)
        some (some (if (sign text).1 then -size else size))
      | _ => none
    else none

def ofText? (text : List Char) : Option Numeral := do
  let (negative, unsigned) := if text.head? = some '-' then (true, text.drop 1) else (false, text)
  let (whole, afterWhole) ← whole? unsigned
  let (fraction, afterFraction) ← fraction? afterWhole
  let exponent ← exponent? afterFraction
  return { negative, whole, fraction, exponent }

def decimal (numeral : Numeral) : Decimal where
  digits := Nat.ofDigitChars 10 (numeral.whole ++ numeral.fraction) 0
  exponent := numeral.exponent.getD 0 - numeral.fraction.length

/-- The exact integer that a numeral spells. A minus sign before zero belongs to a binary number, as an integer
has one zero only. -/
def integer? (numeral : Numeral) : Option Number :=
  let size := (numeral.decimal.digits : Int)
  if numeral.fraction ≠ [] ∨ numeral.exponent.isSome ∨ numeral.negative ∧ size = 0 then none
  else Number.ofInt? (if numeral.negative then -size else size)

/-- The number that a numeral stands for; a size beyond the finite binary numbers has none. -/
def value? (numeral : Numeral) : Option Number :=
  numeral.integer? <|> (numeral.decimal.toBinary64? numeral.negative).map .float

end Numeral

def Number.ofChars? (text : List Char) : Option Number :=
  (Numeral.ofText? text).bind Numeral.value?

end MarkdownTree.Json
