import MarkdownTree.Failure.Basic
import MarkdownTree.Kind.Standing

/-! What a check reports on its way. -/

namespace MarkdownTree

inductive Event
  | visited (standing : Standing)
  | rejected (failure : Failure)
  deriving DecidableEq

namespace Event

/-- An event as a log entry. -/
def attributes : Event → List (String × String)
  | .visited .untyped =>
    [("level", "TRACE"), ("message", "node has no usable type, checking generic shape")]
  | .visited (.extension tag) =>
    [("level", "TRACE"), ("message", "extension node, checking generic shape"), ("node_type", tag)]
  | .visited (.known kind) =>
    [("level", "TRACE"), ("message", "asserting node"), ("node_type", kind.tag)]
  | .rejected failure =>
    [("level", "DEBUG"), ("message", "mdast assertion failed: " ++ failure.display),
      ("kind", failure.ruleClass.label)]

end Event
end MarkdownTree
