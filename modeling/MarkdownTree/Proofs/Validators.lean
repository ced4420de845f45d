import MarkdownTree.Markdown.Validators
import MarkdownTree.Proofs.Refusal

/-! The table of validators and the categories of the kinds agree: the validator of a kind asks for the shape of its
category. The three shapes have one description in common. -/

namespace MarkdownTree
open Json (Fields)

theorem Form.check_ok_iff {form : Form} {node : Json} {fields : Fields} :
    form.check node = .ok fields ↔ node = .object fields ∧ typeRules fields = .ok () ∧
      Position.rules fields = .ok () ∧ childrenRule fields = .ok () ∧ form.ownRules fields = .ok () := by
  cases node with
  | object held =>
    simp only [check, seq_ok_iff, Json.object.injEq]
    constructor
    · rintro ⟨typed, placed, listed, formed, returned⟩
      cases returned
      exact ⟨rfl, typed, placed, listed, formed⟩
    · rintro ⟨rfl, typed, placed, listed, formed⟩
      exact ⟨typed, placed, listed, formed, rfl⟩
  | _ => simp [check]

theorem Json.Fields.children_eq_nil {fields : Fields} (absent : fields.contains "children" = false) :
    fields.children = [] := by
  have missing : fields.get? "children" = none := by simpa [contains] using absent
  simp only [children, missing]

theorem Form.children_eq_nil {form : Form} {node : Json} {fields : Fields} (childless : form = .literal ∨ form = .void)
    (formed : form.check node = .ok fields) : node.children = [] := by
  obtain ⟨rfl, -, -, -, own⟩ := Form.check_ok_iff.1 formed
  have absent : fields.contains "children" = false := by
    rcases childless with rfl | rfl <;> grind [Form.ownRules]
  exact Json.Fields.children_eq_nil absent

namespace Markdown

def categoryCheck : Category → Json → Except Violation Fields
  | .parent => Form.parent.check
  | .literal => literalCheck
  | .void => Form.void.check

theorem literalCheck_ok_iff {node : Json} {fields : Fields} : literalCheck node = .ok fields ↔
    Form.literal.check node = .ok fields ∧ ∃ text, fields.get? "value" = some (.string text) := by
  simp only [literalCheck, bind_ok_iff]
  constructor
  · rintro ⟨held, formed, valued⟩
    split at valued
    next text found =>
      cases valued
      exact ⟨formed, text, found⟩
    next => cases valued
  · rintro ⟨formed, text, found⟩
    exact ⟨fields, formed, by simp [found, pure, Except.pure]⟩

theorem fields_of_categoryCheck {category : Category} {node : Json} {fields : Fields}
    (checked : categoryCheck category node = .ok fields) : node.fields = fields := by
  cases category with
  | parent | void => obtain ⟨rfl, -⟩ := Form.check_ok_iff.1 checked; rfl
  | literal => obtain ⟨rfl, -⟩ := Form.check_ok_iff.1 (literalCheck_ok_iff.1 checked).1; rfl

theorem children_eq_nil_of_categoryCheck {category : Category} {node : Json} {fields : Fields}
    (childless : category ≠ .parent) (checked : categoryCheck category node = .ok fields) : node.children = [] := by
  cases category with
  | parent => exact absurd rfl childless
  | literal => exact Form.children_eq_nil (.inl rfl) (literalCheck_ok_iff.1 checked).1
  | void => exact Form.children_eq_nil (.inr rfl) checked

/-- The category of a node is checked, and then its children. -/
def structureCheck (category : Category) (node : Json) (children : List (Option Json → Run Unit)) : Run Fields := do
  let fields ← (categoryCheck category node).mapError Failure.ofViolation
  children.forM (· (some node))
  return fields

theorem structureCheck_of_childless {category : Category} (childless : category ≠ .parent) (node : Json)
    (visit : Json → Option Json → Run Unit) : structureCheck category node (node.children.map visit) =
      (categoryCheck category node).mapError Failure.ofViolation := by
  rw [structureCheck]
  cases checked : categoryCheck category node with
  | error violation => rfl
  | ok fields =>
    rw [children_eq_nil_of_categoryCheck childless checked]
    rfl

end Markdown

open Markdown

def Category.shape : Category → ShapeCheck
  | .parent => parentShape
  | .literal => literalShape
  | .void => voidShape

/-- Only a parent visits its children, but the other nodes have none to visit. -/
theorem Category.shape_eq (category : Category) (node : Json) (visit : Json → Option Json → Run Unit) :
    category.shape node (node.children.map visit) = structureCheck category node (node.children.map visit) := by
  cases category with
  | parent => rfl
  | literal => exact (structureCheck_of_childless (nofun : Category.literal ≠ .parent) node visit).symm
  | void => exact (structureCheck_of_childless (nofun : Category.void ≠ .parent) node visit).symm

namespace Markdown

def ownRules (kind : Kind) : Fields → Option Json → Except Violation Unit :=
  (validator kind).rules

theorem shape_validator (kind : Kind) : (validator kind).shape = kind.category.shape := by
  cases kind <;> rfl

theorem run_validator (kind : Kind) (node : Json) (visit : Json → Option Json → Run Unit) (parent : Option Json) :
    (validator kind).run node (node.children.map visit) parent = (do
      let fields ← structureCheck kind.category node (node.children.map visit)
      (ownRules kind fields parent).mapError Failure.ofViolation) := by
  rw [Validator.run, shape_validator, kind.category.shape_eq]
  rfl

end Markdown
end MarkdownTree
