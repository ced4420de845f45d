import MarkdownTree.Position

/-! The forms that a single node can have. These rules look at the node alone, never at its children. -/

namespace MarkdownTree
open Json (Fields)

/-- Any node, or one that holds children, a value, or neither. -/
inductive Form
  | node
  | parent
  | literal
  | void
  deriving DecidableEq

namespace Form

def all : List Form :=
  [.node, .parent, .literal, .void]

def name : Form → String
  | .node => "node"
  | .parent => "parent"
  | .literal => "literal"
  | .void => "void"

def ofName? (name : String) : Option Form :=
  all.find? (·.name = name)

def typeRules (fields : Fields) : Except Violation Unit :=
  match fields.get? "type" with
  | none => .error .typeMissing
  | some (.string tag) => if tag = "" then .error .typeEmpty else .ok ()
  | some _ => .error .typeNotString

def childrenRule (fields : Fields) : Except Violation Unit :=
  match fields.nonNull? "children" with
  | none | some (.array _) => .ok ()
  | some _ => .error .childrenNotArray

/-- What a form asks beyond the rules for every node. A forbidden field may not even be null. -/
def ownRules : Form → Fields → Except Violation Unit
  | .node, _ => .ok ()
  | .parent, fields =>
    if fields.contains "value" then .error .parentWithValue
    else if (fields.nonNull? "children").isNone then .error .parentWithoutChildren
    else .ok ()
  | .literal, fields =>
    if fields.contains "children" then .error .literalWithChildren
    else if !fields.contains "value" then .error .literalWithoutValue
    else .ok ()
  | .void, fields =>
    if fields.contains "value" then .error .voidWithValue
    else if fields.contains "children" then .error .voidWithChildren
    else .ok ()

/-- The fields of a node that has the form. -/
def check (form : Form) : Json → Except Violation Fields
  | .object fields => do
    typeRules fields
    Position.rules fields
    childrenRule fields
    form.ownRules fields
    return fields
  | _ => .error .notObject

end Form
end MarkdownTree
