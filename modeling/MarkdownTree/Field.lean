/-! The fields that the rules speak of. -/

namespace MarkdownTree

/-- The ends of the stretch of text that a node covers. -/
inductive Boundary
  | start
  | stop
  deriving DecidableEq

def Boundary.key : Boundary → String
  | .start => "start"
  | .stop => "end"

/-- The coordinates of a point in a text. -/
inductive Axis
  | line
  | column
  | offset
  deriving DecidableEq

namespace Axis

def key : Axis → String
  | .line => "line"
  | .column => "column"
  | .offset => "offset"

/-- Lines and columns count from one, offsets from zero. -/
def least : Axis → Nat
  | .line => 1
  | .column => 1
  | .offset => 0

end Axis

/-- The fields that must hold a boolean or a string. -/
inductive Field
  | spread
  | ordered
  | checked
  | lang
  | info
  | identifier
  | url
  | label
  | title
  | alt
  deriving DecidableEq

def Field.key : Field → String
  | .spread => "spread"
  | .ordered => "ordered"
  | .checked => "checked"
  | .lang => "lang"
  | .info => "meta"
  | .identifier => "identifier"
  | .url => "url"
  | .label => "label"
  | .title => "title"
  | .alt => "alt"

end MarkdownTree
