import MarkdownTree.Json.Printer

/-! Where the text of a JSON value ends. Numbers and names have no backticks, and strings are in quotes, so in a text
that begins with a value the first backtick outside of strings comes after the value. -/

namespace MarkdownTree

/-- If neither of two lists begins with the other one and a separator, the separators behind them are in the same
place. -/
theorem append_cons_inj {first second rest remainder : List α} {separator : α}
    (short : ∀ more, first ≠ second ++ separator :: more) (long : ∀ more, second ≠ first ++ separator :: more)
    (same : first ++ separator :: rest = second ++ separator :: remainder) : first = second ∧ rest = remainder := by
  induction first generalizing second with
  | nil =>
    cases second with
    | nil => exact ⟨rfl, (List.cons.inj same).2⟩
    | cons char second =>
      obtain ⟨rfl, -⟩ := List.cons.inj same
      exact absurd rfl (long second)
  | cons char first ih =>
    cases second with
    | nil =>
      obtain ⟨rfl, -⟩ := List.cons.inj same
      exact absurd rfl (short first)
    | cons other second =>
      obtain ⟨rfl, tails⟩ := List.cons.inj same
      obtain ⟨rfl, after⟩ := ih (by simpa using short) (by simpa using long) tails
      exact ⟨rfl, after⟩

namespace Json

/-- Whether a place in a text is inside a string, and there behind a backslash. -/
inductive Quoting
  | outside
  | inside
  | escaped

namespace Quoting

/-- The next place. A backtick outside of strings has none. -/
def step : Quoting → Char → Option Quoting
  | .outside, char => if char = '"' then some .inside else if char = '\x60' then none else some .outside
  | .inside, char => if char = '"' then some .outside else if char = '\\' then some .escaped else some .inside
  | .escaped, _ => some .inside

end Quoting

def Balanced (text : List Char) : Prop :=
  text.foldlM Quoting.step .outside = some .outside

namespace Balanced
variable {text other : List Char}

@[simp] theorem nil : Balanced [] := rfl

theorem append (balanced : Balanced text) (rest : Balanced other) : Balanced (text ++ other) := by
  simp only [Balanced, List.foldlM_append] at *
  simp [balanced, rest]

theorem cons {char : Char} (plain : char ≠ '"' ∧ char ≠ '\x60') (balanced : Balanced text) :
    Balanced (char :: text) := by
  simpa [Balanced, Quoting.step, plain] using balanced

theorem of_plain (plain : ∀ char ∈ text, char ≠ '"' ∧ char ≠ '\x60') : Balanced text := by
  induction text with
  | nil => exact nil
  | cons char rest ih =>
    obtain ⟨first, later⟩ := List.forall_mem_cons.1 plain
    exact cons first (ih later)

/-- No balanced text goes on behind another one with a backtick. -/
theorem ne_append (balanced : Balanced text) (rest : List Char) (whole : Balanced other) :
    other ≠ text ++ '\x60' :: rest := by
  rintro rfl
  simp only [Balanced, List.foldlM_append] at *
  simp [balanced, Quoting.step] at whole

end Balanced

theorem foldlM_step_inside {text : List Char} (plain : ∀ char ∈ text, char ≠ '"' ∧ char ≠ '\\') :
    text.foldlM Quoting.step .inside = some .inside := by
  induction text with
  | nil => rfl
  | cons char rest ih =>
    obtain ⟨first, later⟩ := List.forall_mem_cons.1 plain
    simpa [Quoting.step, first] using ih later

theorem digitChar_plain {digit : Nat} (small : digit < 16) :
    Nat.digitChar digit ≠ '"' ∧ Nat.digitChar digit ≠ '\\' := by
  decide +revert

theorem foldlM_step_escape (char : Char) : (escape char).foldlM Quoting.step .inside = some .inside := by
  unfold escape
  split <;> try rfl
  next unquoted unescaped _ _ _ _ _ =>
    split
    next control =>
      have high := digitChar_plain (show char.toNat / 16 < 16 by omega)
      have low := digitChar_plain (show char.toNat % 16 < 16 by omega)
      change ['0', '0', _, _].foldlM Quoting.step .inside = some .inside
      exact foldlM_step_inside (by simp [high, low])
    next => exact foldlM_step_inside (by simpa using ⟨unquoted, unescaped⟩)

theorem balanced_quote (text : String) : Balanced (quote text) := by
  have body (chars : List Char) : (chars.flatMap escape).foldlM Quoting.step .inside = some .inside := by
    induction chars with
    | nil => rfl
    | cons char rest ih => simp [List.foldlM_append, foldlM_step_escape, ih]
  simp [Balanced, quote, Quoting.step, List.foldlM_append, body]

end Json

def IsNumeric (char : Char) : Prop :=
  char.isDigit ∨ char ∈ ['-', '+', '.', 'e']

instance : DecidablePred IsNumeric := fun char =>
  inferInstanceAs (Decidable (char.isDigit ∨ char ∈ ['-', '+', '.', 'e']))

theorem IsNumeric.plain {char : Char} (numeric : IsNumeric char) : char ≠ '"' ∧ char ≠ '\x60' := by
  constructor <;>
  · rintro rfl
    exact absurd numeric (by decide)

theorem isNumeric_of_mem_toDigits {char : Char} {size : Nat} (member : char ∈ Nat.toDigits 10 size) :
    IsNumeric char :=
  .inl (Nat.isDigit_of_mem_toDigits (by decide) (by decide) member)

namespace Layout
variable {decimal : Decimal} {digits : List Char} {char : Char}

theorem isNumeric_of_mem_significant (member : char ∈ significant decimal) : IsNumeric char := by
  have inside := (List.dropWhile_sublist _).subset (List.mem_reverse.1 member)
  exact isNumeric_of_mem_toDigits (List.mem_reverse.1 inside)

theorem isNumeric_of_mem_positional (numeric : ∀ digit ∈ digits, IsNumeric digit) {leading : Int}
    (member : char ∈ positional digits leading) : IsNumeric char := by
  have zero : IsNumeric '0' := .inl rfl
  have point : IsNumeric '.' := .inr (by decide)
  unfold positional at member
  split at member
  · simp only [List.cons_append, List.mem_cons, List.mem_append, List.mem_replicate] at member
    obtain rfl | rfl | ⟨-, rfl⟩ | digit := member
    · exact zero
    · exact point
    · exact zero
    · exact numeric _ digit
  · simp only [List.mem_append, List.mem_cons, List.mem_replicate] at member
    obtain (digit | ⟨-, rfl⟩) | rfl | fraction := member
    · exact numeric _ (List.mem_of_mem_take digit)
    · exact zero
    · exact point
    · split at fraction
      · obtain rfl := List.mem_singleton.1 fraction
        exact zero
      · exact numeric _ (List.mem_of_mem_drop fraction)

theorem isNumeric_of_mem_scientific (numeric : ∀ digit ∈ digits, IsNumeric digit) {leading : Int}
    (member : char ∈ scientific digits leading) : IsNumeric char := by
  simp only [scientific, List.mem_append, List.mem_cons] at member
  obtain (digit | fraction) | rfl | rfl | power := member
  · exact numeric _ (List.mem_of_mem_take digit)
  · split at fraction
    · cases fraction
    · obtain rfl | digit := List.mem_cons.1 fraction
      · exact .inr (by decide)
      · exact numeric _ (List.mem_of_mem_drop digit)
  · exact .inr (by decide)
  · split <;> exact .inr (by decide)
  · exact isNumeric_of_mem_toDigits power

theorem isNumeric_of_mem_render {layout : Layout} (member : char ∈ layout.render decimal) : IsNumeric char := by
  have numeric : ∀ digit ∈ significant decimal, IsNumeric digit := fun _ => isNumeric_of_mem_significant
  unfold render at member
  split at member
  · simp only [List.mem_cons, List.not_mem_nil, or_false] at member
    obtain rfl | rfl | rfl := member
    · exact .inl rfl
    · exact .inr (by decide)
    · exact .inl rfl
  · split at member
    · exact isNumeric_of_mem_positional numeric member
    · exact isNumeric_of_mem_scientific numeric member

end Layout

namespace Json

theorem Number.isNumeric_of_mem_chars {number : Number} {char : Char} (member : char ∈ number.chars) :
    IsNumeric char := by
  have signed {negative : Prop} [Decidable negative] (sign : char ∈ if negative then ['-'] else []) :
      IsNumeric char := by
    split at sign
    · exact .inr (by simp_all)
    · cases sign
  cases number with
  | integer value =>
    obtain sign | digit := List.mem_append.1 member
    · exact signed sign
    · exact isNumeric_of_mem_toDigits digit
  | float value =>
    obtain sign | digit := List.mem_append.1 member
    · exact signed sign
    · exact Layout.isNumeric_of_mem_render digit

mutual
/-- Outside of its strings the text of a value has no backticks, and each string is closed. -/
theorem balanced_chars : (value : Json) → Balanced value.chars
  | .null | .bool true | .bool false => rfl
  | .number _ => .of_plain fun _ member => (Number.isNumeric_of_mem_chars member).plain
  | .string text => balanced_quote text
  | .array items => .append (.cons (by decide) (balanced_itemChars items)) rfl
  | .object fields => .append (.cons (by decide) (balanced_fieldChars fields)) rfl

theorem balanced_itemChars : (items : List Json) → Balanced (itemChars items)
  | [] => rfl
  | [item] => balanced_chars item
  | item :: next :: rest =>
    .append (balanced_chars item) (.cons (by decide) (balanced_itemChars (next :: rest)))

theorem balanced_fieldChars : (fields : Fields) → Balanced (fieldChars fields)
  | [] => rfl
  | [(key, value)] => .append (balanced_quote key) (.cons (by decide) (balanced_chars value))
  | (key, value) :: next :: rest =>
    .append (.append (balanced_quote key) (.cons (by decide) (balanced_chars value)))
      (.cons (by decide) (balanced_fieldChars (next :: rest)))
end

end Json
end MarkdownTree
