import Mathlib.Data.List.Nodup
import MarkdownTree.Proofs.DelimitedText
import MarkdownTree.Proofs.EntryDescent

/-! What the text of a failure tells. No message has a colon, and the nodes are delimited by backticks, so that the
message, the node and its parent can be read back out of the text; and the message tells the violation. -/

namespace MarkdownTree

def Boundary.all : List Boundary :=
  [.start, .stop]

def Axis.all : List Axis :=
  [.line, .column, .offset]

def Field.all : List Field :=
  [.spread, .ordered, .checked, .lang, .info, .identifier, .url, .label, .title, .alt]

namespace Violation

/-- The violations that name no boundary and no field of their own. -/
def unindexed : List Violation :=
  [.notObject, .typeMissing, .typeNotString, .typeEmpty, .positionNotObject, .childrenNotArray, .parentWithValue,
    .parentWithoutChildren, .literalWithChildren, .literalWithoutValue, .literalValueNotString, .voidWithValue,
    .voidWithChildren, .rootWithParent, .startUnordered, .startNotNumber, .startTooSmall, .depthNotNumber,
    .depthTooSmall, .depthTooLarge, .infoWithoutLang, .footnoteWithoutIdentifier, .referenceTypeUnknown,
    .alignNotArray, .alignUnknown]

def ofBoundary (boundary : Boundary) : List Violation :=
  .pointNotObject boundary :: Axis.all.flatMap fun axis =>
    [.coordinateNotNumber boundary axis, .coordinateTooSmall boundary axis]

def ofField (field : Field) : List Violation :=
  [.notBoolean field, .notString field]

def all : List Violation :=
  unindexed ++ Boundary.all.flatMap ofBoundary ++ Field.all.flatMap ofField

theorem mem_all (violation : Violation) : violation ∈ all := by
  cases violation with
  | pointNotObject boundary => cases boundary <;> decide
  | coordinateNotNumber boundary axis | coordinateTooSmall boundary axis => cases boundary <;> cases axis <;> decide
  | notBoolean field | notString field => cases field <;> decide
  | _ => decide

theorem nodup_messages : (all.map message).Nodup := by
  decide +kernel

theorem message_injective : Function.Injective message :=
  fun violation cause same => List.inj_on_of_nodup_map nodup_messages (mem_all violation) (mem_all cause) same

theorem colon_not_mem_message (violation : Violation) : ':' ∉ violation.message.toList := by
  intro colon
  -- A text is cheap to evaluate as bytes, and to be looked through as characters it would have to be decoded.
  have bytes : ∀ violation ∈ all, 58 ∉ violation.message.toByteArray.data.toList := by decide +kernel
  apply bytes violation (mem_all violation)
  rw [← String.utf8Encode_toList]
  simpa [List.utf8Encode] using ⟨':', colon, by decide⟩

end Violation

/-- How the text of a place goes on behind the node. -/
def Place.parentChars : Option Json → List Char
  | none => []
  | some parent => [' ', 'i', 'n', ' ', '\x60'] ++ (parent.chars ++ ['\x60'])

theorem Place.toList_text (node : Json) (parent : Option Json) :
    (Place.of node parent).text.toList = '\x60' :: (node.chars ++ '\x60' :: Place.parentChars parent) := by
  cases parent <;> simp [Place.text, Place.of, Json.render, Place.parentChars]

theorem Place.parentChars_inj {parent other : Option Json} (same : parentChars parent = parentChars other) :
    parent.map Json.render = other.map Json.render := by
  cases parent <;> cases other
  all_goals simp_all [parentChars, Json.render]

theorem Place.text_inj {node other : Json} {parent above : Option Json}
    (same : (Place.of node parent).text = (Place.of other above).text) :
    Place.of node parent = Place.of other above := by
  have chars := congrArg String.toList same
  rw [toList_text, toList_text, List.cons.injEq] at chars
  have delimited (node other : Json) (rest : List Char) : node.chars ≠ other.chars ++ '\x60' :: rest :=
    (Json.balanced_chars other).ne_append rest (Json.balanced_chars node)
  obtain ⟨nodes, parents⟩ := append_cons_inj (delimited node other) (delimited other node) chars.2
  simp only [Place.of, Json.render, nodes, parentChars_inj parents]

theorem Violation.toList_display_reportedAt (violation : Violation) (node : Json) (parent : Option Json) :
    (violation.reportedAt node parent).display.toList =
      violation.message.toList ++ ':' :: ' ' :: (Place.of node parent).text.toList := by
  simp [Failure.display, reportedAt]

theorem Violation.display_reportedAt_inj {violation cause : Violation} {node other : Json} {parent above : Option Json}
    (same : (violation.reportedAt node parent).display = (cause.reportedAt other above).display) :
    violation = cause ∧ Place.of node parent = Place.of other above := by
  have chars := congrArg String.toList same
  rw [toList_display_reportedAt, toList_display_reportedAt] at chars
  have delimited (violation cause : Violation) (rest : List Char) :
      violation.message.toList ≠ cause.message.toList ++ ':' :: rest := by
    intro extended
    exact violation.colon_not_mem_message (by simp [extended])
  obtain ⟨messages, places⟩ := append_cons_inj (delimited violation cause) (delimited cause violation) chars
  have sameText : (Place.of node parent).text = (Place.of other above).text :=
    String.toList_inj.1 (List.cons.inj places).2
  exact ⟨message_injective (String.toList_inj.1 messages), Place.text_inj sameText⟩

/-- The text of a failure identifies it. Every failure of a check names its place, failures with the same message are of
the same class, and failures with the same text are the same: also the node and the parent, whatever their strings
and keys contain. -/
theorem display_determines_failure {entry other : Entry} {tree node : Json} {parent above : Option Json}
    {failure cause : Failure} (refused : (entry.run tree parent).result = .error failure)
    (refusedOther : (other.run node above).result = .error cause) :
    failure.place.isSome ∧ cause.place.isSome ∧
      (failure.message = cause.message → failure.ruleClass = cause.ruleClass) ∧
      (failure.display = cause.display → failure = cause) := by
  obtain ⟨_, _, violation, place⟩ := Entry.exists_refusedAt refused
  obtain rfl := Except.error.inj (refused.symm.trans place.reported)
  obtain ⟨_, _, violationOther, placeOther⟩ := Entry.exists_refusedAt refusedOther
  obtain rfl := Except.error.inj (refusedOther.symm.trans placeOther.reported)
  refine ⟨rfl, rfl, ?_, ?_⟩
  · intro same
    exact congrArg Violation.ruleClass (Violation.message_injective same)
  · intro same
    obtain ⟨rfl, places⟩ := Violation.display_reportedAt_inj same
    simp only [Violation.reportedAt, places]

/-- A tag that looks like the end of a node and the beginning of its parent is not taken for one. -/
theorem display_determines_failure_delimiters :
    let check : Entry := ⟨.generic, .parent⟩
    let node := Json.object [("type", .string "a` in `b")]
    let other := Json.object [("type", .string "a")]
    let failure := Violation.parentWithoutChildren.reportedAt node none
    let cause := Violation.parentWithoutChildren.reportedAt other (some (.string "b"))
    (check.run node none).result = .error failure ∧ (check.run other (some (.string "b"))).result = .error cause ∧
      failure.display ≠ cause.display := by
  intro check node other failure cause
  have refused : (check.run node none).result = .error failure := rfl
  have refusedOther : (check.run other (some (.string "b"))).result = .error cause := rfl
  refine ⟨refused, refusedOther, ?_⟩
  intro same
  have equal : failure = cause := (display_determines_failure refused refusedOther).2.2.2 same
  simp [failure, cause, Violation.reportedAt, Place.of] at equal

end MarkdownTree
