import MarkdownTree.Form
import MarkdownTree.Proofs.Refusal
import MarkdownTree.Proofs.RuleTable

/-! The rules for the shape of a single node as one table, from the object itself through its position down to what
its form asks. The check of a form reports the first broken rule of the table. -/

namespace MarkdownTree
open Json (Fields)
open Rule (judge IsFirstBroken)

/-- The name of a point in the table, which does not rely on the names that the checks use. -/
def Boundary.tableKey : Boundary → String
  | .start => "start"
  | .stop => "end"

def Axis.tableKey : Axis → String
  | .line => "line"
  | .column => "column"
  | .offset => "offset"

def Axis.tableBound : Axis → ℕ
  | .line => 1
  | .column => 1
  | .offset => 0

theorem Boundary.key_eq (boundary : Boundary) : boundary.key = boundary.tableKey := by
  cases boundary <;> rfl

theorem Axis.key_eq (axis : Axis) : axis.key = axis.tableKey := by
  cases axis <;> rfl

theorem Axis.least_eq (axis : Axis) : axis.least = axis.tableBound := by
  cases axis <;> rfl

namespace Position

def coordinateTable (boundary : Boundary) (axis : Axis) : List (Rule Fields) :=
  [{ violation := .coordinateNotNumber boundary axis
     ruleClass := .fieldType
     message := "`position." ++ boundary.tableKey ++ "` should have numeric `" ++ axis.tableKey ++ "`"
     brokenBy := fun point => point.holds axis.tableKey (!·.isNumber)
     message_eq := by rw [← boundary.key_eq, ← axis.key_eq]; rfl },
   { violation := .coordinateTooSmall boundary axis
     ruleClass := .fieldRange
     message := "`position." ++ boundary.tableKey ++ "." ++ axis.tableKey ++ "` should be gte `" ++
       Nat.repr axis.tableBound ++ "`"
     brokenBy := fun point => point.holds axis.tableKey (·.isBelow axis.tableBound)
     message_eq := by rw [← boundary.key_eq, ← axis.key_eq, ← axis.least_eq]; rfl }]

def pointTable (boundary : Boundary) : List (Rule Fields) :=
  { violation := .pointNotObject boundary
    ruleClass := .fieldType
    message := "`position." ++ boundary.tableKey ++ "` should be an object"
    brokenBy := fun position => position.holds boundary.tableKey (·.object?.isNone)
    message_eq := by rw [← boundary.key_eq]; rfl } ::
  ([.line, .column, .offset].flatMap (coordinateTable boundary)).map (.onPart (·.object? boundary.tableKey))

def ruleTable : List (Rule Fields) :=
  { violation := .positionNotObject
    ruleClass := .fieldType
    message := "`position` should be an object"
    brokenBy := fun node => node.holds "position" (·.object?.isNone) } ::
  ([.start, .stop].flatMap pointTable).map (.onPart (·.object? "position"))

theorem coordinateRule_eq_judge (boundary : Boundary) (axis : Axis) (point : Fields) :
    coordinateRule boundary axis point = judge (coordinateTable boundary axis) point := by
  have small : axis.tableBound < 0x20000000000000 := by cases axis <;> decide
  simp only [coordinateTable, Rule.judge_cons, Fields.holds_eq, coordinateRule, axis.key_eq, axis.least_eq]
  cases point.nonNull? axis.tableKey with
  | none => rfl
  | some value =>
    cases value with
    | number amount =>
      cases large : amount.atLeast axis.tableBound <;> simp [Json.isNumber, Json.isBelow_number _ small, large]
    | _ => rfl

theorem pointRules_eq_judge (boundary : Boundary) (position : Fields) :
    pointRules boundary position = judge (pointTable boundary) position := by
  rw [pointTable, Rule.judge_cons, Rule.judge_onPart, Fields.object?_eq, pointRules, boundary.key_eq]
  cases held : position.nonNull? boundary.tableKey with
  | none => simp [Fields.holds_eq, held]
  | some value =>
    cases value <;> simp [Fields.holds_eq, held, Json.object?, Rule.judge_append, coordinateRule_eq_judge]

theorem rules_eq_judge (node : Fields) : rules node = judge ruleTable node := by
  rw [ruleTable, Rule.judge_cons, Rule.judge_onPart, Fields.object?_eq, rules]
  cases held : node.nonNull? "position" with
  | none => simp [Fields.holds_eq, held]
  | some value =>
    cases value <;> simp [Fields.holds_eq, held, Json.object?, Rule.judge_append, pointRules_eq_judge]

end Position

namespace Form

def typeTable : List (Rule Fields) :=
  [{ violation := .typeMissing
     ruleClass := .shape
     message := "node should have a type"
     brokenBy := fun node => (node.get? "type").isNone },
   { violation := .typeNotString
     ruleClass := .shape
     message := "`type` should be a string"
     brokenBy := fun node => (node.get? "type").any (!·.isString) },
   { violation := .typeEmpty
     ruleClass := .shape
     message := "`type` should not be empty"
     brokenBy := fun node => (node.get? "type").any (·.isOneOf [""]) }]

def childrenTable : List (Rule Fields) :=
  [{ violation := .childrenNotArray
     ruleClass := .shape
     message := "`children` should be an array"
     brokenBy := fun node => node.holds "children" (!·.isArray) }]

def ownTable : Form → List (Rule Fields)
  | .node => []
  | .parent =>
    [{ violation := .parentWithValue
       ruleClass := .shape
       message := "parent should not have `value`"
       brokenBy := fun node => (node.get? "value").isSome },
     { violation := .parentWithoutChildren
       ruleClass := .shape
       message := "parent should have `children`"
       brokenBy := fun node => node.isAbsent "children" }]
  | .literal =>
    [{ violation := .literalWithChildren
       ruleClass := .shape
       message := "literal should not have `children`"
       brokenBy := fun node => (node.get? "children").isSome },
     { violation := .literalWithoutValue
       ruleClass := .shape
       message := "literal should have `value`"
       brokenBy := fun node => (node.get? "value").isNone }]
  | .void =>
    [{ violation := .voidWithValue
       ruleClass := .shape
       message := "void should not have `value`"
       brokenBy := fun node => (node.get? "value").isSome },
     { violation := .voidWithChildren
       ruleClass := .shape
       message := "void should not have `children`"
       brokenBy := fun node => (node.get? "children").isSome }]

/-- All rules of a form, in the order in which they are reported. -/
def ruleTable (form : Form) : List (Rule Json) :=
  { violation := .notObject
    ruleClass := .shape
    message := "node should be an object"
    brokenBy := fun value => value.object?.isNone } ::
  (typeTable ++ Position.ruleTable ++ childrenTable ++ form.ownTable).map (.onPart Json.object?)

theorem typeRules_eq_judge (node : Fields) : typeRules node = judge typeTable node := by
  cases held : node.get? "type" with
  | none => simp [typeRules, typeTable, Rule.judge_cons, held]
  | some value =>
    cases value <;> simp [typeRules, typeTable, Rule.judge_cons, held, Json.isString, Json.isOneOf]

theorem childrenRule_eq_judge (node : Fields) : childrenRule node = judge childrenTable node := by
  simp only [childrenTable, Rule.judge_cons, Fields.holds_eq, childrenRule]
  cases node.nonNull? "children" with
  | none => rfl
  | some value => cases value <;> rfl

theorem ownRules_eq_judge (form : Form) (node : Fields) : form.ownRules node = judge form.ownTable node := by
  have present (key : String) : (node.get? key).isSome = node.contains key := rfl
  have missing (key : String) : (node.get? key).isNone = !node.contains key := by simp [← present]
  cases form <;> simp [ownRules, ownTable, Rule.judge_cons, present, missing, Fields.isAbsent_eq]

def rules (form : Form) (fields : Fields) : Except Violation Unit := do
  typeRules fields
  Position.rules fields
  childrenRule fields
  form.ownRules fields

theorem check_object (form : Form) (fields : Fields) :
    form.check (.object fields) = (form.rules fields).map fun _ => fields := by
  simp only [check, rules]
  cases typeRules fields with
  | error => rfl
  | ok =>
    cases Position.rules fields with
    | error => rfl
    | ok =>
      cases childrenRule fields with
      | error => rfl
      | ok => cases form.ownRules fields <;> rfl

theorem check_eq_judge (form : Form) (value : Json) :
    form.check value = (judge form.ruleTable value).map fun _ => value.fields := by
  cases value with
  | object fields =>
    have rules : form.rules fields = judge form.ruleTable (.object fields) := by
      rw [ruleTable, Rule.judge_cons, Rule.judge_onPart]
      simp [Form.rules, Json.object?, Rule.judge_append, typeRules_eq_judge, Position.rules_eq_judge,
        childrenRule_eq_judge, ownRules_eq_judge]
    rw [check_object, rules]
    rfl
  | _ => rfl

theorem ruleTable_eq_append (form : Form) :
    form.ruleTable = Form.node.ruleTable ++ form.ownTable.map (.onPart Json.object?) := by
  simp [ruleTable, ownTable]

theorem eq_object_of_judge_ok {form : Form} {value : Json} (accepted : judge form.ruleTable value = .ok ()) :
    value = .object value.fields := by
  cases value with
  | object fields => rfl
  | _ => cases accepted

theorem check_eq_bind (form : Form) (value : Json) :
    form.check value = Form.node.check value >>= fun fields => (judge form.ownTable fields).map fun _ => fields := by
  rw [check_eq_judge, ruleTable_eq_append, Rule.judge_append, check_eq_judge]
  cases held : judge Form.node.ruleTable value with
  | error violation => rfl
  | ok =>
    rw [eq_object_of_judge_ok held, Rule.judge_onPart]
    rfl

/-- The check of a form finds all rules of its table in order, returning the fields of the node as they are, or it fails
by the first broken rule, in the words of that rule and without a place. The rules of a node come before those that
a parent, a literal or a void node has of its own. -/
theorem check_reports_first_broken (form : Form) (value : Json) :
    (∀ fields, form.check value = .ok fields ↔
      value = .object fields ∧ ∀ rule ∈ form.ruleTable, rule.brokenBy value = false) ∧
    (∀ failure, (form.check value).mapError Failure.ofViolation = .error failure ↔
      ∃ rule, IsFirstBroken form.ruleTable value rule ∧ failure = ⟨rule.ruleClass, rule.message, none⟩) ∧
    form.check value = Form.node.check value >>= fun fields => (judge form.ownTable fields).map fun _ => fields := by
  refine ⟨?_, ?_, form.check_eq_bind value⟩
  · intro fields
    rw [check_eq_judge, map_ok_iff, ← Rule.judge_ok_iff]
    constructor
    · rintro ⟨⟨⟩, accepted, rfl⟩
      exact ⟨eq_object_of_judge_ok accepted, accepted⟩
    · rintro ⟨rfl, accepted⟩
      exact ⟨(), accepted, rfl⟩
  · intro failure
    simp only [check_eq_judge, mapError_error_iff, map_error_iff]
    exact Rule.reported_iff Rule.ofViolation_eq

-- The words of the rules in their order.
example : Form.void.ruleTable.map Rule.message =
    ["node should be an object", "node should have a type", "`type` should be a string", "`type` should not be empty",
      "`position` should be an object",
      "`position.start` should be an object",
      "`position.start` should have numeric `line`", "`position.start.line` should be gte `1`",
      "`position.start` should have numeric `column`", "`position.start.column` should be gte `1`",
      "`position.start` should have numeric `offset`", "`position.start.offset` should be gte `0`",
      "`position.end` should be an object",
      "`position.end` should have numeric `line`", "`position.end.line` should be gte `1`",
      "`position.end` should have numeric `column`", "`position.end.column` should be gte `1`",
      "`position.end` should have numeric `offset`", "`position.end.offset` should be gte `0`",
      "`children` should be an array", "void should not have `value`", "void should not have `children`"] := by
  rfl

end Form
end MarkdownTree
