import MarkdownTree.Markdown.Visit

/-! The checks that the library offers. -/

namespace MarkdownTree

/-- The rules of any syntax tree, or those of a Markdown tree. -/
inductive Grammar
  | generic
  | markdown
  deriving DecidableEq

/-- A check of a node and everything below it. -/
structure Entry where
  grammar : Grammar
  form : Form
  deriving DecidableEq

namespace Entry

def all : List Entry :=
  [.generic, .markdown].flatMap fun grammar => Form.all.map (⟨grammar, ·⟩)

/-- A void node has no fields to speak of, so both grammars share its check, and it reports no events. -/
def run (entry : Entry) (node : Json) (parent : Option Json) : Run Unit :=
  match entry with
  | ⟨.generic, form⟩ => Generic.check form node parent
  | ⟨.markdown, .node⟩ => Markdown.tree node parent
  | ⟨.markdown, .parent⟩ => Markdown.ofShape Markdown.parentShape node parent
  | ⟨.markdown, .literal⟩ => Markdown.ofShape Markdown.literalShape node parent
  | ⟨.markdown, .void⟩ => Generic.check .void node parent

end Entry
end MarkdownTree
