import MarkdownTree.Proofs.EntryDescent
import MarkdownTree.Proofs.VisitEvents

/-! What the parent that is given to a check counts for. It is named in a failure of the given node, and a root of a
Markdown tree must not have one. Beyond that nothing depends on it. -/

namespace MarkdownTree

def Json.IsRoot (node : Json) : Prop :=
  node.fields.get? "type" = some (.string "root")

theorem hasKind_root_iff {node : Json} : node.HasKind .root ↔ node.IsRoot := by
  constructor
  · rintro ⟨tag, typed, found⟩
    rw [Json.IsRoot, typed, ← Kind.tag_of_ofTag? found]
    rfl
  · intro root
    exact ⟨"root", root, rfl⟩

namespace Markdown

end Markdown

namespace Entry
variable {entry : Entry} {tree : Json} {parent other : Option Json} {path : Json.ChildPath} {violation : Violation}

end Entry

theorem Json.IsRoot.onExit {tree : Json} (root : tree.IsRoot) (parent : Option Json) :
    Entry.onExit ⟨.markdown, .node⟩ tree parent = Markdown.rootRule parent := by
  have known := Grammar.kind?_of_hasKind (hasKind_root_iff.2 root)
  simp only [Entry.onExit, Grammar.onExit, known]
  rfl

end MarkdownTree
