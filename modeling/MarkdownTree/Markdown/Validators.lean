import MarkdownTree.Form
import MarkdownTree.Markdown.FieldRules
import MarkdownTree.Run.Basic

/-! The validators of the kinds. A validator asks for the shape of a node first, which takes in the children of a
parent, and then for the fields of its kind. -/

namespace MarkdownTree.Markdown
open Json (Fields)

/-- Checks the shape of a node, given the visits of its children. -/
abbrev ShapeCheck := Json → List (Option Json → Run Unit) → Run Fields

/-- The children are visited in order and take the node for their parent. -/
def parentShape : ShapeCheck := fun node children => do
  let fields ← (Form.parent.check node).mapError Failure.ofViolation
  children.forM (· (some node))
  return fields

/-- The value of a literal is a string. -/
def literalCheck (node : Json) : Except Violation Fields := do
  let fields ← Form.literal.check node
  match fields.get? "value" with
  | some (.string _) => return fields
  | _ => throw .literalValueNotString

def literalShape : ShapeCheck := fun node _ =>
  (literalCheck node).mapError Failure.ofViolation

def voidShape : ShapeCheck := fun node _ =>
  (Form.void.check node).mapError Failure.ofViolation

structure Validator where
  shape : ShapeCheck
  rules : Fields → Option Json → Except Violation Unit

namespace Validator

def run (validator : Validator) (node : Json) (children : List (Option Json → Run Unit)) (parent : Option Json) :
    Run Unit := do
  let fields ← validator.shape node children
  (validator.rules fields parent).mapError Failure.ofViolation

def parent : Validator := ⟨parentShape, fun _ _ => .ok ()⟩

def literal : Validator := ⟨literalShape, fun _ _ => .ok ()⟩

def void : Validator := ⟨voidShape, fun _ _ => .ok ()⟩

def root : Validator := ⟨parentShape, fun _ parent => rootRule parent⟩

def list : Validator := ⟨parentShape, fun fields _ => listRules fields⟩

def listItem : Validator := ⟨parentShape, fun fields _ => listItemRules fields⟩

def heading : Validator := ⟨parentShape, fun fields _ => headingRules fields⟩

def code : Validator := ⟨literalShape, fun fields _ => codeRules fields⟩

def footnoteDefinition : Validator := ⟨parentShape, fun fields _ => footnoteDefinitionRules fields⟩

def definition : Validator := ⟨voidShape, fun fields _ => definitionRules fields⟩

def link : Validator := ⟨parentShape, fun fields _ => linkRules fields⟩

def image : Validator := ⟨voidShape, fun fields _ => imageRules fields⟩

def linkReference : Validator := ⟨parentShape, fun fields _ => linkReferenceRules fields⟩

def imageReference : Validator := ⟨voidShape, fun fields _ => imageReferenceRules fields⟩

def footnoteReference : Validator := ⟨voidShape, fun fields _ => footnoteReferenceRules fields⟩

def table : Validator := ⟨parentShape, fun fields _ => tableRules fields⟩

end Validator

/-- The validator of a kind. Kinds without rules of their own share one for each shape. -/
def validator : Kind → Validator
  | .root => .root
  | .paragraph | .blockquote | .tableRow | .tableCell | .strong | .emphasis | .delete | .footnote => .parent
  | .list => .list
  | .listItem => .listItem
  | .heading => .heading
  | .footnoteDefinition => .footnoteDefinition
  | .definition => .definition
  | .link => .link
  | .image => .image
  | .linkReference => .linkReference
  | .imageReference => .imageReference
  | .footnoteReference => .footnoteReference
  | .table => .table
  | .text | .inlineCode | .yaml | .toml | .html => .literal
  | .code => .code
  | .thematicBreak | .lineBreak => .void

end MarkdownTree.Markdown
