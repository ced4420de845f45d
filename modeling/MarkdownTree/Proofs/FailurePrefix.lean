import MarkdownTree.Proofs.Replacement
import MarkdownTree.Proofs.VisitEvents

/-! What a failure depends on: the failing node, all to the left of the way to it, and of the nodes on the way what
is looked at before their children. A tree that agrees in all this fails at the same place for the same reason,
after the same visits. -/

namespace MarkdownTree
open Json (ChildPath)

/-- Trees that agree above and to the left of a path. What is at its end may differ, and so may later children and
all fields of the nodes above that are looked at last. -/
inductive Json.AgreeUpTo : ChildPath → Json → Json → Prop
  | here (node other : Json) : AgreeUpTo [] node other
  | down {node other child otherChild : Json} {index : Nat} {path : ChildPath} (alike : AlikeAbove node other)
    (earlier : other.children.take index = node.children.take index) (found : node.children[index]? = some child)
    (foundOther : other.children[index]? = some otherChild) (inside : AgreeUpTo path child otherChild) :
    AgreeUpTo (index :: path) node other

variable {grammar : Grammar} {tree other node : Json} {parent above : Option Json} {path : ChildPath}
  {violation : Violation}

theorem Json.agreeUpTo_replaceAt (reached : tree.childAt? path = some node) (value : Json) :
    AgreeUpTo path tree (tree.replaceAt path value) := by
  induction path generalizing tree with
  | nil => exact .here tree _
  | cons index path ih =>
    obtain ⟨child, found, inside⟩ := exists_child_of_childAt?_cons reached
    have listed := HoldsChildren.of_getElem? found
    refine .down ?_ ?_ found (getElem?_children_replaceAt found path value) (ih inside)
    · rw [replaceAt_cons found]
      exact alikeAbove_withChildren listed _
    · rw [replaceAt_cons found, children_withChildren listed, List.take_set_of_le (Nat.le_refl index)]

theorem Json.AlikeAbove.verdict_ok {index : Nat} (alike : AlikeAbove node other)
    (same : other.children.take index = node.children.take index)
    (earlier : ∀ sibling ∈ node.children.take index, (grammar.under node).verdict sibling (some node) = .ok ()) :
    ∀ sibling ∈ other.children.take index, (grammar.under other).verdict sibling (some other) = .ok () := by
  intro sibling member
  rw [same] at member
  rw [← alike.under]
  exact (verdict_ok_congr (by rfl)).1 (earlier sibling member)

theorem Json.AlikeAbove.opens (alike : AlikeAbove node other) : opens node = opens other :=
  opens_congr (alike.kind? .markdown) (alike.onEntry .markdown)

theorem RefusedAt.events (refused : RefusedAt tree parent path node violation) :
    (Markdown.tree tree parent).events = (visitsUpTo path (visits tree)).map visited ++
      [.rejected (violation.reportedAt node (tree.parentAt? parent path))] := by
  have reported := refused.reported
  rw [Markdown.tree, Run.result_logged] at reported
  rw [Markdown.tree, Run.events_logged, reported, events_visit_of_failsAt refused.failsAt rfl]

end MarkdownTree
