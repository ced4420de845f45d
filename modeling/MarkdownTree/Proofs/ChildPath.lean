import MarkdownTree.Json.ChildFold
import MarkdownTree.Json.Edit

/-! Places in a tree, given by the indexes of the children on the way down, and what a change below a place
leaves alone. -/

namespace MarkdownTree.Json

/-- The indexes of the children to step into, from the top of a tree. -/
abbrev ChildPath := List Nat

def childAt? (tree : Json) : ChildPath → Option Json
  | [] => some tree
  | index :: path =>
    match tree.children[index]? with
    | some child => child.childAt? path
    | none => none

/-- The node right above the end of a path. The one above the top of a tree is not part of the tree. -/
def parentAt? (tree : Json) (parent : Option Json) (path : ChildPath) : Option Json :=
  if path = [] then parent else tree.childAt? path.dropLast

@[simp] theorem childAt?_nil (tree : Json) : tree.childAt? [] = some tree := rfl

theorem childAt?_cons {tree child : Json} {index : Nat} (found : tree.children[index]? = some child)
    (path : ChildPath) : tree.childAt? (index :: path) = child.childAt? path := by
  simp only [childAt?, found]

theorem exists_child_of_childAt?_cons {tree node : Json} {index : Nat} {path : ChildPath}
    (found : tree.childAt? (index :: path) = some node) :
    ∃ child, tree.children[index]? = some child ∧ child.childAt? path = some node := by
  simp only [childAt?] at found
  split at found
  next child inside => exact ⟨child, inside, found⟩
  next => cases found

@[simp] theorem parentAt?_nil (tree : Json) (parent : Option Json) : tree.parentAt? parent [] = parent := rfl

theorem parentAt?_cons {tree child : Json} {index : Nat} (found : tree.children[index]? = some child)
    (parent : Option Json) (path : ChildPath) :
    tree.parentAt? parent (index :: path) = child.parentAt? (some tree) path := by
  cases path with
  | nil => simp [parentAt?]
  | cons next rest => simp [parentAt?, List.dropLast, childAt?_cons found]

theorem parentAt?_eq_none_iff {tree node : Json} {parent : Option Json} {path : ChildPath}
    (reached : tree.childAt? path = some node) : tree.parentAt? parent path = none ↔ path = [] ∧ parent = none := by
  induction path generalizing tree parent with
  | nil => simp
  | cons index path ih =>
    obtain ⟨child, found, inside⟩ := exists_child_of_childAt?_cons reached
    simp [parentAt?_cons found, ih inside]

def AllAbove (tree : Json) (path : ChildPath) (holds : ChildPath → Json → Prop) : Prop :=
  ∀ above node, above <+: path → above ≠ path → tree.childAt? above = some node → holds above node

@[simp] theorem allAbove_nil (tree : Json) (holds : ChildPath → Json → Prop) : tree.AllAbove [] holds := by
  simp +contextual [AllAbove]

theorem allAbove_cons {tree child : Json} {index : Nat} (found : tree.children[index]? = some child)
    (path : ChildPath) (holds : ChildPath → Json → Prop) :
    tree.AllAbove (index :: path) holds ↔
      holds [] tree ∧ child.AllAbove path fun above => holds (index :: above) := by
  constructor
  · intro all
    refine ⟨all [] tree List.nil_prefix (by simp) rfl, ?_⟩
    intro above node before proper reached
    rw [← childAt?_cons found] at reached
    exact all (index :: above) node (by simpa using before) (by simpa using proper) reached
  · rintro ⟨top, all⟩ above node before proper reached
    rcases List.prefix_cons_iff.1 before with rfl | ⟨rest, rfl, inside⟩
    · obtain rfl : tree = node := by simpa using reached
      exact top
    · rw [childAt?_cons found] at reached
      exact all rest node inside (by simpa using proper) reached

/-- A node with other children. What is no object has none to exchange. -/
def withChildren (node : Json) (items : List Json) : Json :=
  match node with
  | .object fields => .object (Fields.insert "children" (.array items) fields)
  | other => other

def HoldsChildren (node : Json) : Prop :=
  ∃ items, node.fields.get? "children" = some (.array items)

theorem HoldsChildren.of_getElem? {node child : Json} {index : Nat} (found : node.children[index]? = some child) :
    node.HoldsChildren := by
  unfold children Fields.children at found
  split at found
  next items holds => exact ⟨items, holds⟩
  next => simp at found

theorem HoldsChildren.isObject {node : Json} (holds : node.HoldsChildren) :
    ∃ fields, node = .object fields := by
  obtain ⟨items, held⟩ := holds
  cases node with
  | object fields => exact ⟨fields, rfl⟩
  | _ => cases held

theorem get?_withChildren {node : Json} (holds : node.HoldsChildren) (items : List Json) (key : String) :
    (node.withChildren items).fields.get? key =
      if key = "children" then some (.array items) else node.fields.get? key := by
  obtain ⟨fields, rfl⟩ := holds.isObject
  exact Fields.get?_insert ..

@[simp] theorem children_withChildren {node : Json} (holds : node.HoldsChildren) (items : List Json) :
    (node.withChildren items).children = items := by
  simp [children, Fields.children, get?_withChildren holds]

def ChildPath.steps (path : ChildPath) : List PathStep :=
  path.flatMap fun index => [.key "children", .index index]

def replaceAt (tree : Json) (path : ChildPath) (value : Json) : Json :=
  tree.edit path.steps (some value)

@[simp] theorem replaceAt_nil (tree value : Json) : tree.replaceAt [] value = value := by
  simp [replaceAt, ChildPath.steps, edit]

theorem edit_index {items : List Json} {child : Json} {index : Nat} (found : items[index]? = some child)
    (steps : List PathStep) (value : Json) :
    edit (.index index :: steps) (some value) (.array items) =
      .array (items.set index (edit steps (some value) child)) := by
  cases steps with
  | nil => simp only [edit, found]
  | cons step rest => simp [edit, found]

theorem replaceAt_cons {tree child : Json} {index : Nat} (found : tree.children[index]? = some child)
    (path : ChildPath) (value : Json) :
    tree.replaceAt (index :: path) value =
      tree.withChildren (tree.children.set index (child.replaceAt path value)) := by
  obtain ⟨items, held⟩ := HoldsChildren.of_getElem? found
  have same : tree.children = items := by simp [children, Fields.children, held]
  obtain ⟨fields, rfl⟩ := HoldsChildren.isObject ⟨items, held⟩
  rw [same] at found ⊢
  have held : Fields.get? fields "children" = some (.array items) := held
  have inner := edit_index found (ChildPath.steps path) value
  simp only [replaceAt, withChildren, ← inner]
  simp [ChildPath.steps, edit, held]

theorem getElem?_children_replaceAt {tree child : Json} {index : Nat} (found : tree.children[index]? = some child)
    (path : ChildPath) (value : Json) :
    (tree.replaceAt (index :: path) value).children[index]? = some (child.replaceAt path value) := by
  have within : index < tree.children.length := (List.getElem?_eq_some_iff.1 found).1
  rw [replaceAt_cons found, children_withChildren (HoldsChildren.of_getElem? found), List.getElem?_set_self within]

theorem childAt?_replaceAt {tree node : Json} {path : ChildPath} (reached : tree.childAt? path = some node)
    (value : Json) : (tree.replaceAt path value).childAt? path = some value := by
  induction path generalizing tree with
  | nil => simp
  | cons index path ih =>
    obtain ⟨child, found, inside⟩ := exists_child_of_childAt?_cons reached
    rw [childAt?_cons (getElem?_children_replaceAt found path value), ih inside]

end MarkdownTree.Json
