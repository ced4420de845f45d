import MarkdownTree.Json.Basic
import MarkdownTree.Violation

/-! The rules for the `position` of a node. A point, a coordinate or a whole position that is missing or null
breaks none of them. -/

namespace MarkdownTree.Position
open Json (Fields)

def coordinateRule (boundary : Boundary) (axis : Axis) (point : Fields) : Except Violation Unit :=
  match point.nonNull? axis.key with
  | none => .ok ()
  | some (.number number) =>
    if number.atLeast axis.least then .ok () else .error (.coordinateTooSmall boundary axis)
  | some _ => .error (.coordinateNotNumber boundary axis)

def pointRules (boundary : Boundary) (position : Fields) : Except Violation Unit :=
  match position.nonNull? boundary.key with
  | none => .ok ()
  | some (.object point) => do
    coordinateRule boundary .line point
    coordinateRule boundary .column point
    coordinateRule boundary .offset point
  | some _ => .error (.pointNotObject boundary)

def rules (node : Fields) : Except Violation Unit :=
  match node.nonNull? "position" with
  | none => .ok ()
  | some (.object position) => do
    pointRules .start position
    pointRules .stop position
  | some _ => .error .positionNotObject

end MarkdownTree.Position
