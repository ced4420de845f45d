import MarkdownTree.Json.Basic

/-! Changing a value at a path of keys and indexes. -/

namespace MarkdownTree.Json

inductive PathStep
  | key (name : String)
  | index (position : Nat)

/-- Puts a value at the end of a path, or removes what is there. A key that is new is added, an index at the end
of an array appends, and with an empty path nothing is left but the new value, or null. Where a path leads
nowhere the value stays as it is. -/
def edit : List PathStep → Option Json → Json → Json
  | [], replacement, _ => replacement.getD .null
  | [.key name], none, .object fields => .object (Fields.erase name fields)
  | [.index position], none, .array items => .array (items.eraseIdx position)
  | .key name :: path, replacement, .object fields =>
    match Fields.get? fields name with
    | some old => .object (Fields.insert name (edit path replacement old) fields)
    | none =>
      match path, replacement with
      | [], some value => .object (Fields.insert name value fields)
      | _, _ => .object fields
  | .index position :: path, replacement, .array items =>
    match items[position]? with
    | some old => .array (items.set position (edit path replacement old))
    | none =>
      match path, replacement with
      | [], some value => .array (items ++ [value])
      | _, _ => .array items
  | _, _, value => value

end MarkdownTree.Json
