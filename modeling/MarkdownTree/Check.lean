import MarkdownTree.Entry

/-! Checks put together from smaller ones. -/

namespace MarkdownTree

inductive Check
  | accept
  | orphan
  | fail (ruleClass : RuleClass) (message : String)
  | ofForm (form : Form)
  | ofEntry (entry : Entry)
  | located (check : Check)
  | sequence (checks : List Check)
  | children (check : Check)

namespace Check

mutual
/-- Runs a check on a node. A sequence stops at its first failure, and so does a check of the children; only
an entry and a located check name the place of a failure. -/
def run : Check → Json → Option Json → Run Unit
  | .accept, _, _ => pure ()
  | .orphan, _, parent =>
    (demand parent.isNone (.ok ⟨.context, "has parent", none⟩) : Except Failure Unit)
  | .fail ruleClass message, _, _ => (throw ⟨ruleClass, message, none⟩ : Except Failure Unit)
  | .ofForm form, node, _ => (discard (form.check node)).mapError Failure.ofViolation
  | .ofEntry entry, node, parent => entry.run node parent
  | .located check, node, parent => (check.run node parent).locate node parent
  | .sequence checks, node, parent => runAll checks node parent
  | .children check, node, _ => do
    let _ ← (Form.node.check node).mapError Failure.ofViolation
    node.children.forM fun child => check.run child (some node)

def runAll : List Check → Json → Option Json → Run Unit
  | [], _, _ => pure ()
  | check :: rest, node, parent => do
    check.run node parent
    runAll rest node parent
end

end Check
end MarkdownTree
