import MarkdownTree.Failure.Basic
import MarkdownTree.Form
import MarkdownTree.Json.ChildFold

/-! Checks of whole trees that know nothing of particular kinds: every node below the checked one must have the
form of a node. -/

namespace MarkdownTree.Generic

/-- Checks a node, given the checks of its children, which take the node for their parent. -/
def step (form : Form) (node : Json) (children : List (Option Json → Except Failure Unit))
    (parent : Option Json) : Except Failure Unit :=
  Except.mapError (Failure.locate node parent) do
    let _ ← (form.check node).mapError Failure.ofViolation
    children.forM (· (some node))

def tree : Json → Option Json → Except Failure Unit :=
  Json.childFold (step .node)

/-- Checks that a node has a form and everything below it is a tree. A literal or void node has no children. -/
def check (form : Form) (node : Json) (parent : Option Json) : Except Failure Unit :=
  step form node (node.children.map tree) parent

theorem tree_eq (node : Json) : tree node = check .node node := by
  rw [tree, Json.childFold_eq]
  rfl

end MarkdownTree.Generic
