import MarkdownTree.Generic
import MarkdownTree.Markdown.Validators

/-! Checks of Markdown trees. A node of a kind goes to the validator of the kind. All else is an extension, which must
be a tree but may hold anything. -/

namespace MarkdownTree.Markdown

/-- Checks a node, given the visits of its children. -/
def step (node : Json) (children : List (Option Json → Run Unit)) (parent : Option Json) : Run Unit := do
  let standing := Standing.of node
  Run.emit (.visited standing)
  match standing with
  | .untyped | .extension _ => Generic.tree node parent
  | .known kind => Run.locate node parent ((validator kind).run node children parent)

def visit : Json → Option Json → Run Unit :=
  Json.childFold step

theorem visit_eq (node : Json) : visit node = step node (node.children.map visit) := by
  rw [visit, Json.childFold_eq]

/-- Checks a whole tree by the kinds of its nodes. -/
def tree (node : Json) (parent : Option Json) : Run Unit :=
  (visit node parent).logged

/-- Checks a node for a shape and everything below it, but none of the node's own fields. -/
def ofShape (shape : ShapeCheck) (node : Json) (parent : Option Json) : Run Unit :=
  (Run.locate node parent (discard (shape node (node.children.map visit)))).logged

end MarkdownTree.Markdown
