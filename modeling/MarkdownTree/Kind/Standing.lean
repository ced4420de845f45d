import MarkdownTree.Json.Basic
import MarkdownTree.Kind.Basic

/-! How a node is to be treated, read off its `type` alone. -/

namespace MarkdownTree

/-- A node has no tag, a tag that names no kind, or a kind. The empty tag is an extension like any other. -/
inductive Standing
  | untyped
  | extension (tag : String)
  | known (kind : Kind)
  deriving DecidableEq

def Standing.of (node : Json) : Standing :=
  match node.fields.get? "type" with
  | some (.string tag) =>
    match Kind.ofTag? tag with
    | some kind => .known kind
    | none => .extension tag
  | _ => .untyped

end MarkdownTree
