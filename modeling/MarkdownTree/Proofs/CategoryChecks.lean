import MarkdownTree.Proofs.FirstFailure
import MarkdownTree.Proofs.KindTable

/-! The checks of a single category beside the check of a whole tree. The check of a node of a kind is that of its
category, followed by the rules of the kind. -/

namespace MarkdownTree
open Markdown
open Rule (judge IsFirstBroken)

def Category.form : Category → Form
  | .parent => .parent
  | .literal => .literal
  | .void => .void

variable {node : Json} {parent : Option Json} {kind : Kind}

/-- The check of a category looks at the node and then at what is below it. -/
def Category.verdict (category : Category) (node : Json) : Except Failure Unit := do
  ((categoryCheck category node).map fun _ => ()).mapError Failure.ofViolation
  node.children.forM fun child => Grammar.verdict .markdown child (some node)

theorem result_ofShape (category : Category) (node : Json) (parent : Option Json) :
    (ofShape category.shape node parent).result = (category.verdict node).mapError (Failure.locate node parent) := by
  have discarded (run : Run Json.Fields) : (discard run).result = run.result >>= fun _ => .ok () :=
    Run.result_bind run fun _ => pure ()
  rw [ofShape, Run.result_logged, Run.result_locate, discarded, category.shape_eq, structureCheck, Category.verdict]
  simp only [Run.result_bind, Run.result_liftM, Grammar.visited_children]
  cases categoryCheck category node with
  | error violation => rfl
  | ok fields => cases node.children.forM fun child => Grammar.verdict .markdown child (some node) <;> rfl

/-- The check for void nodes comes to the same, since there is nothing below such a node. -/
theorem result_ofVoid (node : Json) (parent : Option Json) :
    Generic.check .void node parent = (Category.void.verdict node).mapError (Failure.locate node parent) := by
  rw [Generic.check, Generic.step, Grammar.generic_children, Category.verdict, categoryCheck]
  cases formed : Form.void.check node with
  | error violation => rfl
  | ok fields =>
    rw [Form.children_eq_nil (.inr rfl) formed]
    rfl

theorem result_categoryEntry (category : Category) (node : Json) (parent : Option Json) :
    (Entry.run ⟨.markdown, category.form⟩ node parent).result =
      (category.verdict node).mapError (Failure.locate node parent) := by
  cases category with
  | parent => exact result_ofShape .parent node parent
  | literal => exact result_ofShape .literal node parent
  | void => exact result_ofVoid node parent

theorem verdict_of_hasKind (held : node.HasKind kind) : Grammar.verdict .markdown node parent =
    Except.mapError (Failure.locate node parent) (do
      kind.category.verdict node
      (ownRules kind node.fields parent).mapError Failure.ofViolation) := by
  rw [Grammar.verdict_eq, Category.verdict]
  simp only [Grammar.onEntry, Grammar.onExit, Grammar.under, Grammar.kind?_of_hasKind held, bind_assoc]

section
variable (held : node.HasKind kind)
include held

theorem verdict_of_category_ok
    (accepted : (Entry.run ⟨.markdown, kind.category.form⟩ node parent).result = .ok ()) :
    Grammar.verdict .markdown node parent =
      (ownRules kind node.fields parent).mapError fun violation => violation.reportedAt node parent := by
  rw [result_categoryEntry, mapError_ok_iff] at accepted
  rw [verdict_of_hasKind held, accepted]
  cases ownRules kind node.fields parent <;> rfl

end

/-- Once the category of a node and its children are accepted, the check of the tree comes down to the rules of the
kind: it accepts the node if none is broken and reports the first broken one otherwise. -/
theorem tree_reports_first_broken {node : Json} {tag : String} {kind : Kind} {fields : Json.Fields}
    (tagged : node.fields.get? "type" = some (.string tag)) (known : Kind.ofTag? tag = some kind)
    (shaped : categoryCheck kind.category node = .ok fields)
    (children : ∀ child ∈ node.children, (Entry.run ⟨.markdown, .node⟩ child (some node)).result = .ok ())
    (parent : Option Json) :
    let whole := (Entry.run ⟨.markdown, .node⟩ node parent).result
    (whole = .ok () ↔ ∀ rule ∈ kind.ruleTable parent, rule.brokenBy fields = false) ∧
      ∀ failure, whole = .error failure ↔ ∃ rule, IsFirstBroken (kind.ruleTable parent) fields rule ∧
        failure = ⟨rule.ruleClass, rule.message, some (Place.of node parent)⟩ := by
  intro whole
  have accepted : (Entry.run ⟨.markdown, kind.category.form⟩ node parent).result = .ok () := by
    rw [result_categoryEntry, mapError_ok_iff, Category.verdict, shaped]
    exact forM_ok_iff.2 children
  have whole_eq : whole = (judge (kind.ruleTable parent) fields).mapError (·.reportedAt node parent) := by
    rw [← ownRules_eq_judge, ← fields_of_categoryCheck shaped]
    exact verdict_of_category_ok ⟨tag, tagged, known⟩ accepted
  have reported (rule : Rule Json.Fields) :
      rule.violation.reportedAt node parent = ⟨rule.ruleClass, rule.message, some (Place.of node parent)⟩ := by
    rw [Violation.reportedAt, rule.ruleClass_eq, rule.message_eq]
  constructor
  · rw [whole_eq, mapError_ok_iff, Rule.judge_ok_iff]
  · intro failure
    rw [whole_eq, mapError_error_iff]
    exact Rule.reported_iff reported

/-- An unordered list that starts with a boolean: two rules are broken, and the first is reported. -/
theorem tree_reports_first_broken_list :
    let item := Json.object [("children", .array []), ("type", .string "listItem")]
    let fields := [("children", .array [item]), ("start", .bool false), ("type", .string "list")]
    ((Kind.list.ruleTable none).filter (·.brokenBy fields)).map Rule.message =
        ["unordered lists must not have `start`", "`start` must be `number`"] ∧
      (Entry.run ⟨.markdown, .node⟩ (.object fields) none).result =
        .error ⟨.crossField, "unordered lists must not have `start`", some (Place.of (.object fields) none)⟩ := by
  intro item fields
  have children : ∀ child ∈ (Json.object fields).children,
      (Entry.run ⟨.markdown, .node⟩ child (some (.object fields))).result = .ok () := by
    intro child held
    obtain rfl : child = item := List.mem_singleton.1 held
    rfl
  have tagged : (Json.object fields).fields.get? "type" = some (.string "list") := rfl
  obtain ⟨-, refused⟩ := tree_reports_first_broken tagged (rfl : Kind.ofTag? "list" = some .list) rfl children none
  have earlier :
      ∀ other ∈ [Rule.optionalBoolean .spread, .optionalBoolean .ordered], other.brokenBy fields = false := by
    decide
  exact ⟨rfl, (refused _).2 ⟨_, ⟨_, Rule.startTable.tail, rfl, rfl, earlier⟩, rfl⟩⟩

end MarkdownTree
