import MarkdownTree.Json.Basic

/-! Recursion along the children of a node. The equation `childFold_eq` and the induction `childInduction` are all
that a proof about such a recursion needs. -/

namespace MarkdownTree.Json

mutual
/-- Combines a node with the results for its children, in order. -/
def childFold (step : Json → List α → α) : Json → α
  | .object fields => step (.object fields) (childFoldFields step fields)
  | leaf => step leaf []

def childFoldFields (step : Json → List α → α) : List (String × Json) → List α
  | [] => []
  | (key, .array items) :: rest =>
    if key = "children" then childFoldItems step items else childFoldFields step rest
  | (key, _) :: rest => if key = "children" then [] else childFoldFields step rest

def childFoldItems (step : Json → List α → α) : List Json → List α
  | [] => []
  | item :: rest => childFold step item :: childFoldItems step rest
end

theorem childFoldItems_eq_map (step : Json → List α → α) (items : List Json) :
    childFoldItems step items = items.map (childFold step) := by
  induction items with
  | nil => rfl
  | cons item rest ih => simp [childFoldItems, ih]

theorem childFoldFields_eq_map (step : Json → List α → α) (fields : Fields) :
    childFoldFields step fields = fields.children.map (childFold step) := by
  induction fields with
  | nil => rfl
  | cons field rest ih =>
    obtain ⟨key, value⟩ := field
    by_cases named : key = "children"
    · cases value <;> simp [childFoldFields, Fields.children, Fields.get?_cons, named, childFoldItems_eq_map]
    · have absent : "children" ≠ key := fun same => named same.symm
      cases value <;> simpa [childFoldFields, Fields.children, Fields.get?_cons, named, absent] using ih

theorem childFold_eq (step : Json → List α → α) (node : Json) :
    node.childFold step = step node (node.children.map (childFold step)) := by
  cases node with
  | object fields => simp [childFold, childFoldFields_eq_map, children, Json.fields]
  | _ => rfl

theorem sizeOf_lt_of_mem_children {node child : Json} (member : child ∈ node.children) :
    sizeOf child < sizeOf node := by
  cases node with
  | object fields =>
    rw [Json.object.sizeOf_spec]
    simp only [children, Json.fields] at member
    induction fields with
    | nil => simp [Fields.children] at member
    | cons field rest ih =>
      obtain ⟨key, value⟩ := field
      by_cases named : "children" = key
      · cases value with
        | array items =>
          simp only [Fields.children, Fields.get?_cons, named, if_true] at member
          have := List.sizeOf_lt_of_mem member
          simp
          omega
        | _ => simp [Fields.children, Fields.get?_cons, named] at member
      · have smaller := ih (by simpa [Fields.children, Fields.get?_cons, named] using member)
        simp
        omega
  | _ => simp [children, Json.fields, Fields.children] at member

/-- What holds of a node whenever it holds of all its children holds of every node. -/
theorem childInduction {motive : Json → Prop}
    (step : ∀ node, (∀ child ∈ node.children, motive child) → motive node) (node : Json) : motive node := by
  induction size : sizeOf node using Nat.strongRecOn generalizing node with
  | ind _ ih =>
    subst size
    exact step node fun child member => ih _ (sizeOf_lt_of_mem_children member) child rfl

end MarkdownTree.Json
