import MarkdownTree.Json.Token
import MarkdownTree.Proofs.DelimitedText
import MarkdownTree.Proofs.NumberText

/-! The tokens of a rendered value. An unquoted token is finished by the character behind it, so a value has its own
tokens in every text where it stands before a bracket, a comma or the end. -/

namespace MarkdownTree.Json

mutual
def tokens : Json → List Token
  | .string text => [.text text]
  | .array items => .arrayOpen :: itemTokens items ++ [.arrayClose]
  | .object fields => .objectOpen :: fieldTokens fields ++ [.objectClose]
  | scalar => [.scalar scalar]

def itemTokens : List Json → List Token
  | [] => []
  | [item] => tokens item
  | item :: rest => tokens item ++ .comma :: itemTokens rest

def fieldTokens : List (String × Json) → List Token
  | [] => []
  | [(key, value)] => .text key :: .colon :: tokens value
  | (key, value) :: rest => .text key :: .colon :: tokens value ++ .comma :: fieldTokens rest
end

namespace Token

def IsBare (char : Char) : Prop :=
  char ≠ '"' ∧ isBlank char = false ∧ ofChar? char = none

/-- A text that begins with a token of its own, or is empty. -/
def Stops (text : List Char) : Prop :=
  ∀ char ∈ text.head?, (ofChar? char).isSome

theorem isBare_of_isNumeric {char : Char} (numeric : IsNumeric char) : IsBare char := by
  refine ⟨numeric.plain.1, ?_, ?_⟩
  · refine Bool.eq_false_iff.2 fun blank => ?_
    simp only [isBlank, Bool.or_eq_true, decide_eq_true_eq] at blank
    obtain ((rfl | rfl) | rfl) | rfl := blank <;> exact absurd numeric (by decide)
  · unfold ofChar?
    split <;> first | rfl | exact absurd numeric (by decide)

theorem scan?_append {state after : List Token × Scan} {text : List Char}
    (reached : text.foldlM step state = some after) (rest : List Char) :
    scan? state (text ++ rest) = scan? after rest := by
  rw [scan?, scan?, List.foldlM_append, reached]
  rfl

theorem foldlM_step_bare {found : List Token} {read chars : List Char} (bare : ∀ char ∈ chars, IsBare char) :
    chars.foldlM step (found, .bare read) = some (found, .bare (chars.reverse ++ read)) := by
  induction chars generalizing read with
  | nil => rfl
  | cons char rest ih =>
    obtain ⟨⟨unquoted, unblank, other⟩, later⟩ := List.forall_mem_cons.1 bare
    simp [step, unquoted, unblank, other, ih later]

theorem scan?_bare {found : List Token} {token : Token} {chars rest : List Char} (nonempty : chars ≠ [])
    (bare : ∀ char ∈ chars, IsBare char) (spells : ofBare? chars = some token) (stops : Stops rest) :
    scan? (found, .between) (chars ++ rest) = scan? (token :: found, .between) rest := by
  obtain ⟨first, others, rfl⟩ := List.exists_cons_of_ne_nil nonempty
  obtain ⟨⟨unquoted, unblank, other⟩, later⟩ := List.forall_mem_cons.1 bare
  have reached : (first :: others).foldlM step (found, .between) = some (found, .bare (first :: others).reverse) := by
    simp [step, startToken, unquoted, unblank, other, foldlM_step_bare later]
  rw [scan?_append reached]
  cases rest with
  | nil => simp [scan?, finish?, spells]
  | cons char rest =>
    have delimiter : (ofChar? char).isSome := stops char rfl
    simp [scan?, step, delimiter, spells]

theorem hexDigit?_digitChar {digit : Nat} (small : digit < 16) : hexDigit? (Nat.digitChar digit) = some digit := by
  decide +revert

theorem foldlM_step_escape (found : List Token) (read : List Char) (char : Char) :
    (escape char).foldlM step (found, .quoted read none) = some (found, .quoted (char :: read) none) := by
  unfold escape
  split <;> try rfl
  next unquoted unescaped _ _ _ _ _ =>
    split
    next control =>
      have high := hexDigit?_digitChar (show char.toNat / 16 < 16 by omega)
      have low := hexDigit?_digitChar (show char.toNat % 16 < 16 by omega)
      have zero : hexDigit? '0' = some 0 := rfl
      have value : char.toNat / 16 * 16 + char.toNat % 16 = char.toNat := Nat.div_add_mod' ..
      have whole : ¬0xd800 ≤ char.toNat ∧ ¬0xdc00 ≤ char.toNat := by omega
      simp [step, zero, high, low, value, Scan.unitDone?, whole]
    next visible =>
      have plain : char ≠ '"' ∧ char ≠ '\\' := ⟨unquoted, unescaped⟩
      simp [step, plain, visible]

theorem foldlM_step_quote (found : List Token) (text : String) :
    (quote text).foldlM step (found, .between) = some (.text text :: found, .between) := by
  have body (chars read : List Char) : (chars.flatMap escape).foldlM step (found, .quoted read none) =
      some (found, .quoted (chars.reverse ++ read) none) := by
    induction chars generalizing read with
    | nil => rfl
    | cons char rest ih => simp [List.foldlM_append, foldlM_step_escape, ih]
  simp [quote, step, startToken, List.foldlM_append, body]

theorem scan?_cons (char : Char) (token : Token) (bracket : ofChar? char = some token)
    (other : char ≠ '"' ∧ isBlank char = false) (found : List Token) (rest : List Char) :
    scan? (found, .between) (char :: rest) = scan? (token :: found, .between) rest := by
  simp [scan?, step, startToken, bracket, other]

theorem stops_cons (char : Char) (bracket : (ofChar? char).isSome) (rest : List Char) : Stops (char :: rest) := by
  simpa [Stops] using bracket

theorem scan?_key (found : List Token) (key : String) (rest : List Char) :
    scan? (found, .between) (quote key ++ ':' :: rest) = scan? (.colon :: .text key :: found, .between) rest :=
  (scan?_append (foldlM_step_quote found key) _).trans (scan?_cons ':' .colon rfl (by decide) _ rest)

theorem scan?_number (found : List Token) {rest : List Char} (stops : Stops rest) (value : Number) :
    scan? (found, .between) (value.chars ++ rest) = scan? (.scalar (.number value) :: found, .between) rest := by
  have bare : ∀ char ∈ value.chars, IsBare char := fun char member =>
    isBare_of_isNumeric (Number.isNumeric_of_mem_chars member)
  have notWord (first : Char) (rest : List Char) (letter : ¬IsNumeric first) : value.chars ≠ first :: rest := by
    intro same
    exact letter (Number.isNumeric_of_mem_chars (same ▸ List.mem_cons_self))
  have spells : ofBare? value.chars = some (.scalar (.number value)) := by
    rw [ofBare?, if_neg (notWord 'n' _ (by decide)), if_neg (notWord 't' _ (by decide)),
      if_neg (notWord 'f' _ (by decide)), Number.ofChars?_chars]
    rfl
  have nonempty : value.chars ≠ [] := by
    intro empty
    have read := value.ofChars?_chars
    rw [empty] at read
    cases read
  exact scan?_bare nonempty bare spells stops

end Token

open Token in
mutual
/-- The text of a value is scanned into the tokens of the value. -/
theorem scan?_chars (found : List Token) {rest : List Char} (stops : Stops rest) : (value : Json) →
    scan? (found, .between) (value.chars ++ rest) = scan? (value.tokens.reverse ++ found, .between) rest
  | .null | .bool true | .bool false =>
    scan?_bare (by simp [chars]) (by simp [chars, IsBare, isBlank, ofChar?]) rfl stops
  | .number value => scan?_number found stops value
  | .string value => scan?_append (foldlM_step_quote found value) rest
  | .array items => by
    have opened := scan?_cons '[' .arrayOpen rfl (by decide) found (itemChars items ++ ']' :: rest)
    have body := scan?_itemChars (.arrayOpen :: found) (stops_cons ']' rfl rest) items
    have closed := scan?_cons ']' .arrayClose rfl (by decide) ((itemTokens items).reverse ++ .arrayOpen :: found) rest
    simpa [chars, tokens] using opened.trans (body.trans closed)
  | .object fields => by
    have opened := scan?_cons '{' .objectOpen rfl (by decide) found (fieldChars fields ++ '}' :: rest)
    have body := scan?_fieldChars (.objectOpen :: found) (stops_cons '}' rfl rest) fields
    have closed := scan?_cons '}' .objectClose rfl (by decide) ((fieldTokens fields).reverse ++ .objectOpen :: found)
      rest
    simpa [chars, tokens] using opened.trans (body.trans closed)

theorem scan?_itemChars (found : List Token) {rest : List Char} (stops : Stops rest) : (items : List Json) →
    scan? (found, .between) (itemChars items ++ rest) = scan? ((itemTokens items).reverse ++ found, .between) rest
  | [] => rfl
  | [item] => scan?_chars found stops item
  | item :: next :: items => by
    have first := scan?_chars found (stops_cons ',' rfl (itemChars (next :: items) ++ rest)) item
    have comma := scan?_cons ',' .comma rfl (by decide) (item.tokens.reverse ++ found)
      (itemChars (next :: items) ++ rest)
    have others := scan?_itemChars (.comma :: (item.tokens.reverse ++ found)) stops (next :: items)
    simpa [itemChars, itemTokens] using first.trans (comma.trans others)

theorem scan?_fieldChars (found : List Token) {rest : List Char} (stops : Stops rest) : (fields : Fields) →
    scan? (found, .between) (fieldChars fields ++ rest) = scan? ((fieldTokens fields).reverse ++ found, .between) rest
  | [] => rfl
  | [(key, value)] => by
    have named := scan?_key found key (value.chars ++ rest)
    have body := scan?_chars (.colon :: .text key :: found) stops value
    simpa [fieldChars, fieldTokens] using named.trans body
  | (key, value) :: next :: fields => by
    have named := scan?_key found key (value.chars ++ ',' :: (fieldChars (next :: fields) ++ rest))
    have body := scan?_chars (.colon :: .text key :: found)
      (stops_cons ',' rfl (fieldChars (next :: fields) ++ rest)) value
    have comma := scan?_cons ',' .comma rfl (by decide) (value.tokens.reverse ++ .colon :: .text key :: found)
      (fieldChars (next :: fields) ++ rest)
    have others := scan?_fieldChars (.comma :: (value.tokens.reverse ++ .colon :: .text key :: found)) stops
      (next :: fields)
    simpa [fieldChars, fieldTokens] using named.trans (body.trans (comma.trans others))
end

theorem ofText?_chars (value : Json) : Token.ofText? value.chars = some value.tokens := by
  have ended : Token.Stops [] := by simp [Token.Stops]
  simpa [Token.ofText?, Token.scan?, Token.finish?] using scan?_chars [] ended value

end MarkdownTree.Json
