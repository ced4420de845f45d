import Mathlib.Tactic.NormNum
import MarkdownTree.Proofs.EntryDescent
import MarkdownTree.Proofs.NearestNumber
import MarkdownTree.Proofs.RelevantFields

/-! Numbers in a tree are judged by their exact values, although they are compared as binary numbers, and none of them
is ever taken for something else than a number. -/

namespace MarkdownTree
open Json (Fields)
open Markdown
open Rule (judge)

/-- The value that a rule asks to be a number, as far as it is there. -/
def Violation.numeral? (violation : Violation) (node : Fields) : Option Json :=
  match violation with
  | .depthNotNumber => node.get? "depth"
  | .startNotNumber => node.get? "start"
  | .coordinateNotNumber boundary axis =>
    ((node.object? "position").bind (·.object? boundary.key)).bind (·.get? axis.key)
  | _ => none

/-- A check of a node that never refuses a number for not being one. -/
def SparesNumbers (node : Fields) (check : Except Violation Unit) : Prop :=
  ∀ violation, check = .error violation → ∀ number, violation.numeral? node ≠ some (.number number)

section
variable {node : Fields}

@[simp] theorem sparesNumbers_ok : SparesNumbers node (.ok ()) := by
  intro violation refused
  cases refused

@[simp] theorem sparesNumbers_error {violation : Violation} : SparesNumbers node (.error violation) ↔
    ∀ number, violation.numeral? node ≠ some (.number number) := by
  constructor
  · intro spares
    exact spares violation rfl
  · intro spared cause refused
    cases refused
    exact spared

theorem SparesNumbers.judge {table : List (Rule α)} {subject : α}
    (rows : ∀ rule ∈ table, rule.brokenBy subject = true →
      ∀ number, rule.violation.numeral? node ≠ some (.number number)) : SparesNumbers node (judge table subject) := by
  intro violation refused
  obtain ⟨rule, member, broken, rfl⟩ := Rule.exists_mem_of_judge_error refused
  exact rows rule member broken

theorem not_number_of_holds {fields : Fields} {key : String} (broken : fields.holds key (!·.isNumber) = true)
    (number : Json.Number) : fields.get? key ≠ some (.number number) := by
  intro held
  simp [Fields.holds, held, Json.isNumber] at broken

theorem not_number_of_not_holds {fields : Fields} {key : String} (broken : fields.holds key (·.isNumber) = false)
    (number : Json.Number) : fields.get? key ≠ some (.number number) := by
  intro held
  simp [Fields.holds, held, Json.isNumber, Json.isNull] at broken

theorem not_number_of_coordinate {boundary : Boundary} {axis : Axis}
    (broken : ((node.object? "position").any fun position =>
      (position.object? boundary.tableKey).any fun point => point.holds axis.tableKey (!·.isNumber)) = true)
    (number : Json.Number) : (Violation.coordinateNotNumber boundary axis).numeral? node ≠ some (.number number) := by
  obtain ⟨position, reached, broken⟩ := (Option.any_eq_true ..).1 broken
  obtain ⟨point, inside, broken⟩ := (Option.any_eq_true ..).1 broken
  simpa [Violation.numeral?, reached, inside, boundary.key_eq, axis.key_eq] using not_number_of_holds broken number

theorem sparesNumbers_ownRules (kind : Kind) (parent : Option Json) :
    SparesNumbers node (ownRules kind node parent) := by
  rw [ownRules_eq_judge]
  apply SparesNumbers.judge
  cases kind with
  | list =>
    simpa [Kind.ruleTable, Rule.optionalBoolean, Rule.startTable, Violation.numeral?] using not_number_of_holds
  | heading => simpa [Kind.ruleTable, Rule.depthTable, Violation.numeral?] using not_number_of_not_holds
  | _ =>
    simp [Kind.ruleTable, Violation.numeral?, Rule.rootWithParent, Rule.optionalBoolean, Rule.optionalString,
      Rule.requiredString, Rule.infoWithoutLang, Rule.footnoteIdentifier, Rule.referenceType, Rule.alignTable]

end

theorem sparesNumbers_formTable (form : Form) (fields : Fields) :
    SparesNumbers fields (judge form.ruleTable (.object fields)) := by
  apply SparesNumbers.judge
  cases form
  -- Only the rows for the six coordinates are left.
  all_goals
    simp [Form.ruleTable, Form.typeTable, Position.ruleTable, Position.pointTable, Position.coordinateTable,
      Form.childrenTable, Form.ownTable, Rule.onPart, Json.object?, Violation.numeral?]
    and_intros
    all_goals exact not_number_of_coordinate

theorem sparesNumbers_formCheck (form : Form) (node : Json) :
    SparesNumbers node.fields ((form.check node).map fun _ => ()) := by
  cases node with
  | object fields =>
    intro violation refused
    rw [Form.check_eq_judge] at refused
    exact sparesNumbers_formTable form fields violation (map_error_iff.1 (map_error_iff.1 refused))
  | _ => exact sparesNumbers_error.2 (by simp [Violation.numeral?])

theorem sparesNumbers_categoryCheck (category : Category) (node : Json) :
    SparesNumbers node.fields ((categoryCheck category node).map fun _ => ()) := by
  cases category with
  | parent => exact sparesNumbers_formCheck .parent node
  | void => exact sparesNumbers_formCheck .void node
  | literal =>
    have formed := sparesNumbers_formCheck .literal node
    rw [categoryCheck, literalCheck]
    cases checked : Form.literal.check node with
    | error violation =>
      rw [checked] at formed
      exact formed
    | ok fields =>
      simp only [bind, Except.bind]
      split
      · exact sparesNumbers_ok
      · exact sparesNumbers_error.2 (by simp [Violation.numeral?])

namespace Grammar
variable (grammar : Grammar) (node : Json)

theorem sparesNumbers_onEntry : SparesNumbers node.fields (grammar.onEntry node) := by
  unfold onEntry
  split
  · exact sparesNumbers_categoryCheck _ node
  · exact sparesNumbers_formCheck .node node

theorem sparesNumbers_onExit (parent : Option Json) : SparesNumbers node.fields (grammar.onExit node parent) := by
  unfold onExit
  split
  · exact sparesNumbers_ownRules _ parent
  · exact sparesNumbers_ok

end Grammar

variable {tree : Json} {parent : Option Json} {path : Json.ChildPath} {violation : Violation} {node : Json}

theorem FailsAt.sparesNumbers {grammar : Grammar} (fails : FailsAt grammar tree parent path violation)
    (reached : tree.childAt? path = some node) (number : Json.Number) :
    violation.numeral? node.fields ≠ some (.number number) := by
  obtain ⟨place, found, breaks⟩ := (firstFailure_iff_failsAt.2 fails).refused
  obtain rfl : node = place := Option.some.inj (reached.symm.trans found)
  obtain refused | ⟨-, -, refused⟩ := breaks
  · exact Grammar.sparesNumbers_onEntry _ node _ refused number
  · exact Grammar.sparesNumbers_onExit _ node _ _ refused number

theorem Entry.sparesNumbers_onEntry (entry : Entry) (node : Json) :
    SparesNumbers node.fields (entry.onEntry node) := by
  unfold Entry.onEntry
  split
  · exact Grammar.sparesNumbers_onEntry _ node
  · exact sparesNumbers_categoryCheck .literal node
  · exact sparesNumbers_formCheck _ node

theorem Entry.sparesNumbers_onExit (entry : Entry) (node : Json) (parent : Option Json) :
    SparesNumbers node.fields (entry.onExit node parent) := by
  unfold Entry.onExit
  split
  · exact Grammar.sparesNumbers_onExit _ node parent
  · exact sparesNumbers_ok

theorem Entry.RefusedAt.sparesNumbers {entry : Entry} (refused : entry.RefusedAt tree parent path node violation)
    (number : Json.Number) : violation.numeral? node.fields ≠ some (.number number) := by
  obtain ⟨reached, fails, -⟩ := refused
  cases fails with
  | entry refused =>
    obtain rfl : tree = node := by simpa using reached
    exact entry.sparesNumbers_onEntry tree _ refused number
  | child entered found earlier inside =>
    rw [Json.childAt?_cons found] at reached
    exact inside.sparesNumbers reached number
  | exit entered accepted refused =>
    obtain rfl : tree = node := by simpa using reached
    exact entry.sparesNumbers_onExit tree parent _ refused number

section
variable {number : Json.Number} {fields : Fields}

theorem headingRules_number (held : fields.get? "depth" = some (.number number)) :
    headingRules fields =
      if number.value < 1 then .error .depthTooSmall
      else if 6 < number.value then .error .depthTooLarge
      else .ok () := by
  rw [headingRules_eq_judge]
  simp [Rule.depthTable, Rule.judge_cons, Fields.holds, held, Json.isNull, Json.isNumber, Json.isBelow, Json.isAbove]

theorem tree_heading_number {heading : Json} (tagged : heading.fields.get? "type" = some (.string "heading"))
    (held : heading.fields.get? "depth" = some (.number number))
    (accepted : (Entry.run ⟨.markdown, .parent⟩ heading parent).result = .ok ()) :
    (Entry.run ⟨.markdown, .node⟩ heading parent).result =
      if number.value < 1 then .error (Violation.depthTooSmall.reportedAt heading parent)
      else if 6 < number.value then .error (Violation.depthTooLarge.reportedAt heading parent)
      else .ok () := by
  have typed : heading.HasKind .heading := ⟨"heading", tagged, rfl⟩
  have whole : (Entry.run ⟨.markdown, .node⟩ heading parent).result =
      (headingRules heading.fields).mapError (·.reportedAt heading parent) :=
    verdict_of_category_ok typed accepted
  rw [whole, headingRules_number held]
  split
  · rfl
  · split <;> rfl

theorem startRule_number (ordered : fields.get? "ordered" = some (.bool true))
    (held : fields.get? "start" = some (.number number)) :
    startRule fields = if number.value < 0 then .error .startTooSmall else .ok () := by
  rw [startRule_eq_judge]
  simp [Rule.startTable, Rule.judge_cons, Fields.holds, Fields.isAbsent, held, ordered, Json.isNull, Json.isTrue,
    Json.isNumber, Json.isBelow]

theorem Position.coordinateRule_number {boundary : Boundary} {axis : Axis}
    (held : fields.get? axis.key = some (.number number)) : coordinateRule boundary axis fields =
      if number.value < axis.least then .error (.coordinateTooSmall boundary axis) else .ok () := by
  rw [axis.key_eq] at held
  rw [coordinateRule_eq_judge, axis.least_eq]
  simp [coordinateTable, Rule.judge_cons, Fields.holds, held, Json.isNull, Json.isNumber, Json.isBelow]

end

/-- Every number in a tree is judged by its exact value. The conversion to the nearest binary number may lose digits,
but takes no number across a bound of fewer than 54 bits. So a heading that is otherwise valid is accepted with the
depths from one to six, and refused for any other by the bound that it exceeds; the start of an ordered list must not
be negative; and coordinates keep their bounds. Nothing is ever refused for having no number where it has one. -/
theorem numbers_judged_by_exact_value (number : Json.Number) :
    number.toBinary64.IsNearest number.value ∧
    (∀ bound : ℕ, bound < 0x20000000000000 →
      ((bound : ℚ) ≤ number.toBinary64.value ↔ (bound : ℚ) ≤ number.value) ∧
      (number.toBinary64.value ≤ bound ↔ number.value ≤ bound)) ∧
    (∀ heading parent, heading.fields.get? "type" = some (.string "heading") →
      heading.fields.get? "depth" = some (.number number) →
      (Entry.run ⟨.markdown, .parent⟩ heading parent).result = .ok () →
      let whole := (Entry.run ⟨.markdown, .node⟩ heading parent).result
      let refusal message := Except.error ⟨.fieldRange, message, some (Place.of heading parent)⟩
      (whole = .ok () ↔ 1 ≤ number.value ∧ number.value ≤ 6) ∧
      (whole = refusal "`depth` should be gte `1`" ↔ number.value < 1) ∧
      (whole = refusal "`depth` should be lte `6`" ↔ 6 < number.value)) ∧
    (∀ list : Fields, list.get? "ordered" = some (.bool true) → list.get? "start" = some (.number number) →
      (startRule list = .ok () ↔ 0 ≤ number.value) ∧
      (startRule list = .error .startTooSmall ↔ number.value < 0)) ∧
    (∀ boundary axis (point : Fields), point.get? axis.key = some (.number number) →
      let least : ℚ := if axis = .offset then 0 else 1
      (Position.coordinateRule boundary axis point = .ok () ↔ least ≤ number.value) ∧
      (Position.coordinateRule boundary axis point = .error (.coordinateTooSmall boundary axis) ↔
        number.value < least)) ∧
    ∀ entry tree parent path node violation, Entry.RefusedAt entry tree parent path node violation →
      violation.numeral? node.fields ≠ some (.number number) := by
  refine ⟨number.isNearest_toBinary64, ?_, ?_, ?_, ?_, ?_⟩
  · intro bound small
    rw [← Binary64.atLeast_iff, ← Binary64.atMost_iff]
    exact ⟨number.atLeast_iff small, number.atMost_iff small⟩
  · intro heading parent tagged held accepted whole refusal
    have decided : whole =
        if number.value < 1 then refusal "`depth` should be gte `1`"
        else if 6 < number.value then refusal "`depth` should be lte `6`"
        else .ok () :=
      tree_heading_number tagged held accepted
    have apart : refusal "`depth` should be gte `1`" ≠ refusal "`depth` should be lte `6`" := by simp [refusal]
    have refused (message : String) : refusal message ≠ .ok () := by simp [refusal]
    rw [decided]
    grind
  · intro list ordered held
    rw [startRule_number ordered held]
    grind
  · intro boundary axis point held least
    have bound : (axis.least : ℚ) = least := by cases axis <;> simp [least, Axis.least]
    rw [Position.coordinateRule_number held, bound]
    grind
  · intro entry tree parent path node violation refused
    exact refused.sparesNumbers number

/-- The largest integer rounds up to a power of two, and no bound takes notice. -/
theorem numbers_judged_by_exact_value_largest :
    let largest : Json.Number := .integer 0xffffffffffffffff (by decide) (by decide)
    let heading := Json.object [("children", .array []), ("depth", .number largest), ("type", .string "heading")]
    let wordy := Json.object [("children", .array []), ("depth", .string "one"), ("type", .string "heading")]
    6 ≤ largest.toBinary64.value ∧
      (Entry.run ⟨.markdown, .node⟩ heading none).result =
        .error ⟨.fieldRange, "`depth` should be lte `6`", some (Place.of heading none)⟩ ∧
      startRule [("ordered", .bool true), ("start", .number largest)] = .ok () ∧
      Position.coordinateRule .start .line [("line", .number largest)] = .ok () ∧
      ∃ path node violation, Entry.RefusedAt ⟨.markdown, .node⟩ wordy none path node violation ∧
        violation.numeral? node.fields ≠ some (.number largest) := by
  intro largest heading wordy
  obtain ⟨-, bounds, headings, lists, points, refusals⟩ := numbers_judged_by_exact_value largest
  have value : largest.value = 18446744073709551615 := by
    simp [largest, Json.Number.value]
  have wordyRefused : (Entry.run ⟨.markdown, .node⟩ wordy none).result =
      .error (Violation.depthNotNumber.reportedAt wordy none) := rfl
  obtain ⟨path, node, violation, refused⟩ := Entry.exists_refusedAt wordyRefused
  refine ⟨?_, ?_, ?_, ?_, path, node, violation, refused, refusals _ _ _ _ _ _ refused⟩
  · exact (bounds 6 (by decide)).1.2 (by rw [value]; norm_num)
  · exact (headings heading none rfl rfl rfl).2.2.2 (by rw [value]; norm_num)
  · exact (lists _ rfl rfl).1.2 (by rw [value]; norm_num)
  · exact (points .start .line _ rfl).1.2 (by simp [value])

end MarkdownTree
