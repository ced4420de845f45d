import MarkdownTree.Proofs.RelevantFields

/-! What becomes of an accepted tree in which something is replaced. Neither the nodes above the place nor those
beside it mind, so the verdict on the whole is the verdict on what was put in. -/

namespace MarkdownTree

variable {grammar : Grammar} {tree node : Json} {parent : Option Json} {path : Json.ChildPath}

theorem onExit_congr {other : Option Json} (same : parent.isSome = other.isSome) :
    grammar.onExit node parent = grammar.onExit node other := by
  unfold Grammar.onExit
  split
  next kind known =>
    cases kind with
    | root => cases parent <;> cases other <;> first | rfl | cases same
    | _ => rfl
  next => rfl

theorem verdict_ok_congr {other : Option Json} (same : parent.isSome = other.isSome) :
    grammar.verdict node parent = .ok () ↔ grammar.verdict node other = .ok () := by
  rw [grammar.verdict_ok_iff, grammar.verdict_ok_iff, onExit_congr same]

theorem verdict_childAt? (accepted : grammar.verdict tree parent = .ok ())
    (reached : tree.childAt? path = some node) :
    (grammar.descend tree path).verdict node (tree.parentAt? parent path) = .ok () := by
  induction path generalizing grammar tree parent with
  | nil =>
    obtain rfl : tree = node := by simpa using reached
    exact accepted
  | cons index path ih =>
    obtain ⟨child, found, inside⟩ := Json.exists_child_of_childAt?_cons reached
    rw [grammar.descend_cons found, Json.parentAt?_cons found]
    exact ih (Grammar.accepted_children accepted child (List.mem_of_getElem? found)) inside

/-- With other children, an accepted node is what these children are, one after the other. -/
theorem verdict_withChildren (accepted : grammar.verdict node parent = .ok ()) (listed : node.HoldsChildren)
    (items : List Json) {above : Option Json} (same : parent.isSome = above.isSome) :
    grammar.verdict (node.withChildren items) above =
      items.forM fun item => (grammar.under node).verdict item (some (node.withChildren items)) := by
  have alike := Json.alikeAbove_withChildren listed items
  obtain ⟨entered, -, left⟩ := (grammar.verdict_ok_iff ..).1 accepted
  rw [alike.onEntry] at entered
  rw [onExit_congr same, ← onExit_withChildren listed items] at left
  cases walked : items.forM fun item => (grammar.under node).verdict item (some (node.withChildren items)) with
  | ok =>
    refine (grammar.verdict_ok_iff ..).2 ⟨entered, ?_, left⟩
    rw [Json.children_withChildren listed, ← alike.under]
    exact forM_ok_iff.1 walked
  | error failure =>
    refine (grammar.verdict_error_iff ..).2 (.inr ⟨entered, .inl ?_⟩)
    rw [Json.children_withChildren listed, ← alike.under]
    exact forM_error_iff.1 walked

theorem forM_set {check : Json → Except Failure Unit} {items : List Json} {index : Nat} {old : Json}
    (found : items[index]? = some old) (accepted : ∀ item ∈ items, check item = .ok ()) (value : Json) :
    (items.set index value).forM check = check value := by
  have within : index < items.length := (List.getElem?_eq_some_iff.1 found).1
  cases checked : check value with
  | ok =>
    rw [forM_ok_iff]
    intro item member
    rcases List.mem_or_eq_of_mem_set member with inside | rfl
    · exact accepted item inside
    · exact checked
  | error failure =>
    refine forM_error_iff.2 ⟨index, value, List.getElem?_set_self within, ?_, checked⟩
    rw [List.take_set_of_le (Nat.le_refl index)]
    exact fun item member => accepted item (List.mem_of_mem_take member)

theorem verdict_replaceAt (accepted : grammar.verdict tree parent = .ok ())
    (reached : tree.childAt? path = some node) (value : Json) :
    grammar.verdict (tree.replaceAt path value) parent =
      (grammar.descend tree path).verdict value ((tree.replaceAt path value).parentAt? parent path) := by
  induction path generalizing grammar tree parent with
  | nil => simp
  | cons index path ih =>
    obtain ⟨child, found, inside⟩ := Json.exists_child_of_childAt?_cons reached
    have children := Grammar.accepted_children accepted
    rw [grammar.descend_cons found, Json.parentAt?_cons (Json.getElem?_children_replaceAt found path value),
      Json.replaceAt_cons found, verdict_withChildren accepted (Json.HoldsChildren.of_getElem? found) _ rfl]
    generalize tree.withChildren (tree.children.set index (child.replaceAt path value)) = changed
    have children (item : Json) (member : item ∈ tree.children) :
        (grammar.under tree).verdict item (some changed) = .ok () :=
      (verdict_ok_congr (by rfl)).1 (children item member)
    rw [forM_set found children]
    exact ih (children child (List.mem_of_getElem? found)) inside

theorem isSome_parentAt?_replaceAt (reached : tree.childAt? path = some node) (value : Json) :
    (tree.parentAt? parent path).isSome = ((tree.replaceAt path value).parentAt? parent path).isSome := by
  have placed := Json.childAt?_replaceAt reached value
  rw [Bool.eq_iff_iff, Option.isSome_iff_ne_none, Option.isSome_iff_ne_none, ne_eq, ne_eq,
    Json.parentAt?_eq_none_iff reached, Json.parentAt?_eq_none_iff placed]

/-- In an accepted tree, exchanging the children of a node for any others comes to checking these others by
themselves: the tree is accepted if they all are, and otherwise refused with the very failure of the first that is
not. So children can be left out, moved, repeated and added as long as each is acceptable in that place. -/
theorem verdict_replaceChildren {old : List Json} (accepted : (Markdown.tree tree parent).result = .ok ())
    (reached : tree.childAt? path = some node) (listed : node.fields.get? "children" = some (.array old))
    (items : List Json) :
    let changed := node.withChildren items
    let result := (Markdown.tree (tree.replaceAt path changed) parent).result
    let check := (Grammar.descend .markdown tree path).under node
    (check = .markdown ↔ KindChecked tree path ∧ ∃ kind, node.HasKind kind) ∧
      (result = .ok () ↔ ∀ item ∈ items, check.verdict item (some changed) = .ok ()) ∧
      (∀ failure, result = .error failure ↔
        ∃ index item, items[index]? = some item ∧
          (∀ earlier ∈ items.take index, check.verdict earlier (some changed) = .ok ()) ∧
          check.verdict item (some changed) = .error failure) ∧
      ((∀ item ∈ items, item ∈ old ∨ ∃ other, check.verdict item (some other) = .ok ()) → result = .ok ()) := by
  intro changed result check
  have accepted : Grammar.verdict .markdown tree parent = .ok () := accepted
  have holds : node.HoldsChildren := ⟨old, listed⟩
  have walked : result = items.forM fun item => check.verdict item (some changed) := by
    change Grammar.verdict .markdown (tree.replaceAt path changed) parent = _
    rw [verdict_replaceAt accepted reached]
    have inPlace := verdict_childAt? accepted reached
    exact verdict_withChildren inPlace holds items (isSome_parentAt?_replaceAt reached _)
  have all : result = .ok () ↔ ∀ item ∈ items, check.verdict item (some changed) = .ok () := by
    rw [walked, forM_ok_iff]
  refine ⟨under_descend_eq_markdown_iff reached, all, ?_, ?_⟩
  · intro failure
    rw [walked, forM_error_iff]
  · intro acceptable
    refine all.2 fun item member => ?_
    -- Only that there is a parent matters for an acceptance, so the old or other parent is as good as the new one.
    rcases acceptable item member with inside | ⟨other, valid⟩
    · have children : node.children = old := by simp [Json.children, Json.Fields.children, listed]
      have valid := Grammar.accepted_children (verdict_childAt? accepted reached) item (children ▸ inside)
      exact (verdict_ok_congr (by rfl)).1 valid
    · exact (verdict_ok_congr (by rfl)).1 valid

/-- A paragraph of one word gets a second child that is no node. -/
theorem verdict_replaceChildren_paragraph :
    let word := Json.object [("type", .string "text"), ("value", .string "word")]
    let paragraph := Json.object [("children", .array [word]), ("type", .string "paragraph")]
    let tree := Json.object [("children", .array [paragraph]), ("type", .string "root")]
    let changed := paragraph.withChildren [word, .null]
    (Markdown.tree (tree.replaceAt [0] changed) none).result =
      .error (Violation.notObject.reportedAt .null (some changed)) := by
  intro word paragraph tree changed
  have accepted : (Markdown.tree tree none).result = .ok () := rfl
  have reached : tree.childAt? [0] = some paragraph := rfl
  refine ((verdict_replaceChildren accepted reached rfl [word, .null]).2.2.1 _).2 ⟨1, .null, rfl, ?_, rfl⟩
  intro earlier member
  obtain rfl := List.mem_singleton.1 member
  rfl

end MarkdownTree
