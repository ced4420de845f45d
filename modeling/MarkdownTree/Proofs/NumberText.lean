import Mathlib.Data.List.DropRight
import Mathlib.Data.List.TakeDrop
import MarkdownTree.Json.Number.Text
import MarkdownTree.Proofs.ShortestDecimal

/-! The text of a number reads back to the number. A binary number is written with a point or an exponent, which no
integer has, and in every layout the digits keep their places. -/

namespace MarkdownTree

theorem head?_toDigits_ne {size : Nat} (nonzero : size ≠ 0) : (Nat.toDigits 10 size).head? ≠ some '0' := by
  induction size using Nat.strongRecOn with
  | ind size ih =>
    by_cases small : size < 10
    · have digit : ∀ one < 10, one ≠ 0 → Nat.digitChar one ≠ '0' := by decide
      simpa [Nat.toDigits_of_lt_base small] using digit size small nonzero
    · have shorter := ih (size / 10) (by omega) (by omega)
      obtain ⟨first, rest, front⟩ := List.exists_cons_of_ne_nil (Nat.toDigits_ne_nil (n := size / 10) (b := 10))
      rw [Nat.toDigits_of_base_le (by decide) (by omega)]
      rw [front] at shorter ⊢
      exact shorter

namespace Json.Numeral
variable {digits rest : List Char}

theorem digits?_append (nonempty : digits ≠ []) (plain : ∀ char ∈ digits, char.isDigit)
    (stop : ∀ char ∈ rest.head?, ¬char.isDigit) : digits? (digits ++ rest) = some (digits, rest) := by
  have ended : rest.takeWhile Char.isDigit = [] ∧ rest.dropWhile Char.isDigit = rest := by
    cases rest with
    | nil => exact ⟨rfl, rfl⟩
    | cons char rest =>
      have other : ¬char.isDigit := stop char rfl
      simp [other]
  have split : (digits ++ rest).span Char.isDigit = (digits, rest) := by
    rw [List.span_eq_takeWhile_dropWhile, List.takeWhile_append_of_pos plain, List.dropWhile_append_of_pos plain,
      ended.1, ended.2, List.append_nil]
  obtain ⟨first, others, rfl⟩ := List.exists_cons_of_ne_nil nonempty
  rw [digits?, split]

def pointChars : List Char → List Char
  | [] => []
  | digits => '.' :: digits

def powerChars : Option Int → List Char
  | none => []
  | some power => 'e' :: (if power < 0 then '-' else '+') :: Nat.toDigits 10 power.natAbs

def chars (numeral : Numeral) : List Char :=
  (if numeral.negative then ['-'] else []) ++
    (numeral.whole ++ (pointChars numeral.fraction ++ powerChars numeral.exponent))

/-- Digits on both sides of the point. Those before it have no leading zero, unless zero is all there is. -/
structure WellFormed (numeral : Numeral) : Prop where
  whole : ∀ char ∈ numeral.whole, char.isDigit
  fraction : ∀ char ∈ numeral.fraction, char.isDigit
  nonempty : numeral.whole ≠ []
  single : ∀ digits, numeral.whole = '0' :: digits → digits = []

theorem powerChars_head? (power : Option Int) : ∀ char ∈ (powerChars power).head?, char = 'e' := by
  cases power <;> simp [powerChars]

theorem exponent?_powerChars (power : Option Int) : exponent? (powerChars power) = some power := by
  cases power with
  | none => rfl
  | some power =>
    have plain : ∀ char ∈ Nat.toDigits 10 power.natAbs, char.isDigit := fun _ =>
      Nat.isDigit_of_mem_toDigits (by decide) (by decide)
    have digits : digits? (Nat.toDigits 10 power.natAbs) = some (Nat.toDigits 10 power.natAbs, []) := by
      rw [← List.append_nil (Nat.toDigits 10 power.natAbs), digits?_append Nat.toDigits_ne_nil plain (by simp),
        List.append_nil]
    by_cases below : power < 0
    · simp [powerChars, exponent?, below, sign, digits, abs_of_neg below]
    · simp [powerChars, exponent?, below, sign, digits, abs_of_nonneg (Int.not_lt.1 below)]

theorem fraction?_append (plain : ∀ char ∈ digits, char.isDigit)
    (stop : ∀ char ∈ rest.head?, ¬char.isDigit ∧ char ≠ '.') :
    fraction? (pointChars digits ++ rest) = some (digits, rest) := by
  cases digits with
  | nil =>
    cases rest with
    | nil => rfl
    | cons char rest =>
      have other : char ≠ '.' := (stop char rfl).2
      unfold fraction? pointChars
      simp [other]
  | cons first others => exact digits?_append (by simp) plain fun char member => (stop char member).1

theorem whole?_append (nonempty : digits ≠ []) (plain : ∀ char ∈ digits, char.isDigit)
    (single : ∀ others, digits = '0' :: others → others = [])
    (stop : ∀ char ∈ rest.head?, ¬char.isDigit) : whole? (digits ++ rest) = some (digits, rest) := by
  rw [whole?, digits?_append nonempty plain stop]
  split
  next found =>
    cases Option.some.inj found
    exact absurd (single _ rfl) (by simp)
  next => rfl

theorem ofText?_chars {numeral : Numeral} (wellFormed : numeral.WellFormed) :
    ofText? numeral.chars = some numeral := by
  obtain ⟨negative, whole, fraction, exponent⟩ := numeral
  obtain ⟨wholeDigits, fractionDigits, nonempty, single⟩ := wellFormed
  have power := powerChars_head? exponent
  have point : ∀ char ∈ (pointChars fraction ++ powerChars exponent).head?, char = '.' ∨ char = 'e' := by
    cases fraction with
    | nil => simpa [pointChars] using fun char member => .inr (power char member)
    | cons => simp [pointChars]
  have readWhole := whole?_append nonempty wholeDigits single fun char member => by
    obtain rfl | rfl := point char member <;> decide
  have readFraction := fraction?_append fractionDigits fun char member => by
    obtain rfl := power char member
    decide
  have unsigned : (whole ++ (pointChars fraction ++ powerChars exponent)).head? ≠ some '-' := by
    obtain ⟨first, others, rfl⟩ := List.exists_cons_of_ne_nil nonempty
    rintro same
    cases same
    cases wholeDigits '-' (by simp)
  cases negative <;>
    simp only [ofText?, chars, Bool.false_eq_true, if_true, if_false, unsigned, List.nil_append, List.cons_append,
      List.head?_cons, List.drop_one, List.tail_cons, readWhole, readFraction, exponent?_powerChars,
      Option.bind_eq_bind, Option.bind_some, Option.pure_def]

theorem wellFormed_toDigits (negative : Bool) (size : Nat) :
    (Numeral.mk negative (Nat.toDigits 10 size) [] none).WellFormed where
  whole := fun _ => Nat.isDigit_of_mem_toDigits (by decide) (by decide)
  fraction := by simp
  nonempty := Nat.toDigits_ne_nil
  single := fun digits same => by
    by_cases zero : size = 0
    · rw [zero] at same
      exact (List.cons.inj same).2.symm
    · exact absurd (congrArg List.head? same) (head?_toDigits_ne zero)

theorem integer?_toDigits {value : Int} (least limit) :
    (Numeral.mk (value < 0) (Nat.toDigits 10 value.natAbs) [] none).integer? = some (.integer value least limit) := by
  have size : (Numeral.mk (value < 0) (Nat.toDigits 10 value.natAbs) [] none).decimal.digits = value.natAbs := by
    rw [decimal, List.append_nil, Nat.ofDigitChars_ten_toDigits]
  have signed : (if value < 0 then -(value.natAbs : Int) else value.natAbs) = value := by
    split <;> omega
  have oneZero : ¬(value < 0 ∧ (value.natAbs : Int) = 0) := by omega
  simp only [integer?, size, decide_eq_true_eq, signed, oneZero, Number.ofInt?, dif_pos (And.intro least limit)]
  rfl

theorem ofChars?_chars {numeral : Numeral} (wellFormed : numeral.WellFormed) (inexact : numeral.integer? = none) :
    Number.ofChars? numeral.chars = (numeral.decimal.nearest? numeral.negative).map .float := by
  rw [Number.ofChars?, ofText?_chars wellFormed, Option.bind_some, value?, inexact, Decimal.toBinary64?_eq_nearest?,
    Option.orElse_eq_orElse, Option.orElse_eq_or, Option.none_or]

theorem ofChars?_point {negative : Bool} {whole fraction : List Char}
    (wellFormed : (Numeral.mk negative whole fraction none).WellFormed) (nonempty : fraction ≠ []) :
    Number.ofChars? ((if negative then ['-'] else []) ++ (whole ++ '.' :: fraction)) =
      ((Decimal.mk (Nat.ofDigitChars 10 (whole ++ fraction) 0) (-fraction.length)).nearest? negative).map .float := by
  have spelled : (Numeral.mk negative whole fraction none).chars =
      (if negative then ['-'] else []) ++ (whole ++ '.' :: fraction) := by
    obtain ⟨first, rest, rfl⟩ := List.exists_cons_of_ne_nil nonempty
    simp [chars, pointChars, powerChars]
  rw [← spelled, ofChars?_chars wellFormed (by simp [integer?, nonempty])]
  simp [decimal]

end Json.Numeral

namespace Layout
open Json

/-- The decimal with given digits, the leading one of which stands for a given power of ten. -/
def decimalOf (digits : List Char) (leading : Int) : Decimal where
  digits := Nat.ofDigitChars 10 digits 0
  exponent := leading + 1 - digits.length

theorem exists_text_eq (decimal : Decimal) :
    ∃ zeros, decimal.text = significant decimal ++ List.replicate zeros '0' := by
  have zeros : ∀ char ∈ decimal.text.rtakeWhile (· == '0'), char = '0' := fun char member => by
    simpa using List.mem_rtakeWhile_imp member
  exact ⟨_, (List.rdropWhile_append_rtakeWhile ..).symm.trans
    (congrArg _ (List.eq_replicate_iff.2 ⟨rfl, zeros⟩))⟩

theorem nearest?_decimalOf_significant (decimal : Decimal) (negative : Bool) :
    (decimalOf (significant decimal) decimal.leading).nearest? negative = decimal.nearest? negative := by
  obtain ⟨zeros, whole⟩ := exists_text_eq decimal
  have size : decimal.text.length = (significant decimal).length + zeros := by
    rw [whole, List.length_append, List.length_replicate]
  have digits : decimal.digits = Nat.ofDigitChars 10 (significant decimal) 0 * Nat.pow 10 zeros := by
    calc decimal.digits = Nat.ofDigitChars 10 decimal.text 0 := Nat.ofDigitChars_ten_toDigits.symm
      _ = _ := by rw [whole, Nat.ofDigitChars_append, Nat.ofDigitChars_replicate_zero, Nat.mul_comm]; rfl
  have extended : (decimalOf (significant decimal) decimal.leading).extend zeros = decimal := by
    obtain ⟨value, exponent⟩ := decimal
    simp only [Decimal.extend, decimalOf, Decimal.mk.injEq, Decimal.leading] at digits size ⊢
    exact ⟨digits.symm, by omega⟩
  rw [← Decimal.nearest?_extend _ zeros, extended]

theorem exists_significant_eq {decimal : Decimal} (nonzero : decimal.digits ≠ 0) :
    ∃ first rest, significant decimal = first :: rest ∧ first ≠ '0' := by
  have leading := head?_toDigits_ne nonzero
  obtain ⟨zeros, whole⟩ := exists_text_eq decimal
  rw [← Decimal.text, whole] at leading
  cases front : significant decimal with
  | nil =>
    have empty : decimal.text ≠ [] := Nat.toDigits_ne_nil
    rw [whole, front] at empty
    rw [front] at leading
    cases zeros <;> simp [List.replicate_succ] at empty leading
  | cons first rest =>
    rw [front] at leading
    exact ⟨first, rest, rfl, by simpa using leading⟩

theorem isDigit_of_mem_zeros {char : Char} {count : Nat} (member : char ∈ List.replicate count '0') :
    char.isDigit := by
  rw [List.eq_of_mem_replicate member]
  rfl

section Readback
variable {first : Char} {rest : List Char} (plain : ∀ char ∈ first :: rest, char.isDigit) (negative : Bool)
  (leading : Int)
include plain

theorem ofChars?_positional_of_neg (below : leading < 0) :
    Number.ofChars? ((if negative then ['-'] else []) ++ positional (first :: rest) leading) =
      ((decimalOf (first :: rest) leading).nearest? negative).map .float := by
  have wellFormed : (Numeral.mk negative ['0'] (List.replicate (-leading - 1).toNat '0' ++ first :: rest)
      none).WellFormed :=
    { whole := by simp
      fraction := List.forall_mem_append.2 ⟨fun _ => isDigit_of_mem_zeros, plain⟩
      nonempty := by simp
      single := fun digits same => (List.cons.inj same).2.symm }
  have value : Decimal.mk
      (Nat.ofDigitChars 10 (['0'] ++ (List.replicate (-leading - 1).toNat '0' ++ first :: rest)) 0)
      (-(List.replicate (-leading - 1).toNat '0' ++ first :: rest).length) = decimalOf (first :: rest) leading := by
    simp [decimalOf, Nat.ofDigitChars_append, Nat.ofDigitChars_replicate_zero, Nat.ofDigitChars_cons]
    omega
  rw [← value, ← Numeral.ofChars?_point wellFormed (by simp), positional, if_pos below]
  rfl

variable (nonzero : first ≠ '0')
include nonzero

theorem wellFormed_take {count : Nat} {digits fraction : List Char} (digit : ∀ char ∈ digits, char.isDigit)
    (fractionDigit : ∀ char ∈ fraction, char.isDigit) :
    (Numeral.mk negative ((first :: rest).take (count + 1) ++ digits) fraction none).WellFormed where
  whole := List.forall_mem_append.2 ⟨fun char inside => plain char (List.mem_of_mem_take inside), digit⟩
  fraction := fractionDigit
  nonempty := by simp
  single := fun digits same => absurd (List.cons.inj same).1 nonzero

theorem ofChars?_positional_of_length_le (whole : ¬leading < 0)
    (short : (first :: rest).length ≤ leading.toNat + 1) :
    Number.ofChars? ((if negative then ['-'] else []) ++ positional (first :: rest) leading) =
      ((decimalOf (first :: rest) leading).nearest? negative).map .float := by
  have text : positional (first :: rest) leading = (first :: rest).take (leading.toNat + 1) ++
      List.replicate (leading.toNat + 1 - (first :: rest).length) '0' ++ '.' :: ['0'] := by
    simp only [positional, if_neg whole, if_pos short]
  have value : (decimalOf (first :: rest) leading).extend (leading.toNat + 1 - (first :: rest).length + 1) =
      Decimal.mk (Nat.ofDigitChars 10 ((first :: rest).take (leading.toNat + 1) ++
        List.replicate (leading.toNat + 1 - (first :: rest).length) '0' ++ ['0']) 0) (-['0'].length) := by
    rw [List.take_of_length_le short, List.append_assoc, ← List.replicate_succ']
    simp only [Decimal.extend, decimalOf, Decimal.mk.injEq, Nat.ofDigitChars_append, Nat.ofDigitChars_replicate_zero]
    exact ⟨Nat.mul_comm .., by simp only [List.length_singleton]; omega⟩
  rw [text, ← Decimal.nearest?_extend, value]
  exact Numeral.ofChars?_point (wellFormed_take plain negative nonzero (fun _ => isDigit_of_mem_zeros) (by simp))
    (by simp)

theorem ofChars?_positional_of_lt_length (whole : ¬leading < 0) (long : leading.toNat + 1 < (first :: rest).length) :
    Number.ofChars? ((if negative then ['-'] else []) ++ positional (first :: rest) leading) =
      ((decimalOf (first :: rest) leading).nearest? negative).map .float := by
  have text : positional (first :: rest) leading = (first :: rest).take (leading.toNat + 1) ++ [] ++
      '.' :: (first :: rest).drop (leading.toNat + 1) := by
    simp only [positional, if_neg whole, if_neg (Nat.not_le_of_lt long), Nat.sub_eq_zero_of_le long.le,
      List.replicate_zero]
  have value : decimalOf (first :: rest) leading =
      Decimal.mk (Nat.ofDigitChars 10 ((first :: rest).take (leading.toNat + 1) ++ [] ++
        (first :: rest).drop (leading.toNat + 1)) 0) (-((first :: rest).drop (leading.toNat + 1)).length) := by
    rw [List.append_nil, List.take_append_drop, List.length_drop, decimalOf]
    congr 1
    omega
  rw [text, value]
  exact Numeral.ofChars?_point (wellFormed_take plain negative nonzero (by simp) fun char inside =>
    plain char (List.mem_of_mem_drop inside)) (by simpa using long)

theorem ofChars?_positional :
    Number.ofChars? ((if negative then ['-'] else []) ++ positional (first :: rest) leading) =
      ((decimalOf (first :: rest) leading).nearest? negative).map .float := by
  by_cases below : leading < 0
  · exact ofChars?_positional_of_neg plain negative leading below
  · by_cases short : (first :: rest).length ≤ leading.toNat + 1
    · exact ofChars?_positional_of_length_le plain negative leading nonzero below short
    · exact ofChars?_positional_of_lt_length plain negative leading nonzero below (Nat.not_le.1 short)

omit nonzero in
theorem ofChars?_scientific :
    Number.ofChars? ((if negative then ['-'] else []) ++ scientific (first :: rest) leading) =
      ((decimalOf (first :: rest) leading).nearest? negative).map .float := by
  have wellFormed : (Numeral.mk negative [first] rest (some leading)).WellFormed :=
    { whole := by simpa using plain first (by simp)
      fraction := fun char member => plain char (List.mem_cons_of_mem _ member)
      nonempty := by simp
      single := fun digits same => (List.cons.inj same).2.symm }
  have spelled : (Numeral.mk negative [first] rest (some leading)).chars =
      (if negative then ['-'] else []) ++ scientific (first :: rest) leading := by
    cases rest <;> simp [Numeral.chars, Numeral.pointChars, Numeral.powerChars, scientific]
  have value : (Numeral.mk negative [first] rest (some leading)).decimal = decimalOf (first :: rest) leading := by
    simp [Numeral.decimal, decimalOf]
  rw [← spelled, Numeral.ofChars?_chars wellFormed (by simp [Numeral.integer?]), value]

end Readback

/-- In every layout a decimal is read back as the binary number nearest to it. -/
theorem ofChars?_render (layout : Layout) (negative : Bool) (decimal : Decimal) :
    Number.ofChars? ((if negative then ['-'] else []) ++ layout.render decimal) =
      (decimal.nearest? negative).map .float := by
  by_cases zero : decimal.digits = 0
  · rw [render, if_pos zero, Decimal.nearest?_of_digits_eq_zero zero]
    cases negative <;> decide +kernel
  · obtain ⟨first, rest, front, nonzero⟩ := exists_significant_eq zero
    have plain : ∀ char ∈ first :: rest, char.isDigit := fun char member => by
      obtain ⟨zeros, whole⟩ := exists_text_eq decimal
      have inside : char ∈ decimal.text := by
        rw [whole, front]
        exact List.mem_append_left _ member
      exact Nat.isDigit_of_mem_toDigits (by decide) (by decide) inside
    rw [render, if_neg zero, ← nearest?_decimalOf_significant, front]
    by_cases inside : layout.least ≤ decimal.leading ∧ decimal.leading < layout.limit
    · rw [if_pos inside]
      exact ofChars?_positional plain negative _ nonzero
    · rw [if_neg inside]
      exact ofChars?_scientific plain negative _

end Layout

namespace Json.Number

/-- Every number is read back from its text. -/
theorem ofChars?_chars (number : Number) : ofChars? number.chars = some number := by
  cases number with
  | float value =>
    rw [chars, Layout.ofChars?_render, value.nearest?_shortest]
    rfl
  | integer value least limit =>
    have spelled : (Numeral.mk (value < 0) (Nat.toDigits 10 value.natAbs) [] none).chars =
        chars (.integer value least limit) := by
      simp [Numeral.chars, Numeral.pointChars, Numeral.powerChars, chars]
    rw [← spelled, ofChars?, Numeral.ofText?_chars (Numeral.wellFormed_toDigits ..), Option.bind_some, Numeral.value?,
      Numeral.integer?_toDigits least limit]
    rfl

end Json.Number
end MarkdownTree
