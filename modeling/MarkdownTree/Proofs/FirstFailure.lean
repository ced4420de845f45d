import MarkdownTree.Proofs.Descent

/-! The failure that a check reports is the first on its way through the tree, and there is no other. The way is
neither from the top down nor from the bottom up: nodes are entered before their children and left after them. -/

namespace MarkdownTree

/-- The path at which a check fails and the rule broken there, step by step as the check comes to them. -/
inductive FailsAt : Grammar → Json → Option Json → Json.ChildPath → Violation → Prop
  | entry {grammar node parent violation} (refused : grammar.onEntry node = .error violation) :
    FailsAt grammar node parent [] violation
  | child {grammar node parent index child path violation} (entered : grammar.onEntry node = .ok ())
    (found : node.children[index]? = some child)
    (earlier : ∀ sibling ∈ node.children.take index, (grammar.under node).verdict sibling (some node) = .ok ())
    (inside : FailsAt (grammar.under node) child (some node) path violation) :
    FailsAt grammar node parent (index :: path) violation
  | exit {grammar node parent violation} (entered : grammar.onEntry node = .ok ())
    (accepted : ∀ child ∈ node.children, (grammar.under node).verdict child (some node) = .ok ())
    (refused : grammar.onExit node parent = .error violation) :
    FailsAt grammar node parent [] violation

variable {grammar : Grammar} {tree : Json} {parent : Option Json} {path : Json.ChildPath} {violation : Violation}

theorem FailsAt.verdict (fails : FailsAt grammar tree parent path violation) :
    ∃ node, tree.childAt? path = some node ∧
      grammar.verdict tree parent = .error (violation.reportedAt node (tree.parentAt? parent path)) := by
  induction fails with
  | @entry grammar node parent violation refused =>
    exact ⟨node, rfl, (grammar.verdict_error_iff ..).2 (.inl ⟨violation, refused, rfl⟩)⟩
  | @child grammar node parent index child path violation entered found earlier inside ih =>
    obtain ⟨place, reached, refused⟩ := ih
    refine ⟨place, by rw [Json.childAt?_cons found, reached], ?_⟩
    rw [Json.parentAt?_cons found]
    exact (grammar.verdict_error_iff ..).2 (.inr ⟨entered, .inl ⟨index, child, found, earlier, refused⟩⟩)
  | @exit grammar node parent violation entered accepted refused =>
    exact ⟨node, rfl, (grammar.verdict_error_iff ..).2 (.inr ⟨entered, .inr ⟨accepted, violation, refused, rfl⟩⟩)⟩

theorem exists_failsAt {failure : Failure} (refused : grammar.verdict tree parent = .error failure) :
    ∃ path violation, FailsAt grammar tree parent path violation := by
  induction tree using Json.childInduction generalizing grammar parent with
  | step node ih =>
    obtain ⟨violation, entry, -⟩ | ⟨entered, inside | ⟨accepted, violation, exit, -⟩⟩ :=
      (grammar.verdict_error_iff ..).1 refused
    · exact ⟨[], violation, .entry entry⟩
    · obtain ⟨index, child, found, earlier, refused⟩ := inside
      obtain ⟨path, violation, fails⟩ := ih child (List.mem_of_getElem? found) refused
      exact ⟨index :: path, violation, .child entered found earlier fails⟩
    · exact ⟨[], violation, .exit entered accepted exit⟩

theorem FailsAt.not_accepted (fails : FailsAt grammar tree parent path violation) :
    grammar.verdict tree parent ≠ .ok () := by
  obtain ⟨node, -, refused⟩ := fails.verdict
  simp [refused]

private theorem index_unique {items : List Json} {check : Json → Except Failure Unit} {first second : Json}
    {index other : Nat} (found : items[index]? = some first) (foundOther : items[other]? = some second)
    (refused : check first ≠ .ok ()) (refusedOther : check second ≠ .ok ())
    (earlier : ∀ sibling ∈ items.take index, check sibling = .ok ())
    (earlierOther : ∀ sibling ∈ items.take other, check sibling = .ok ()) : index = other := by
  rcases Nat.lt_trichotomy index other with before | same | after
  · exact absurd (earlierOther first (mem_take_of_getElem? found before)) refused
  · exact same
  · exact absurd (earlier second (mem_take_of_getElem? foundOther after)) refusedOther

theorem FailsAt.unique {other : Json.ChildPath} {cause : Violation}
    (first : FailsAt grammar tree parent path violation) (second : FailsAt grammar tree parent other cause) :
    path = other ∧ violation = cause := by
  induction first generalizing other cause with
  | entry refused =>
    cases second with
    | entry refusedOther => simp_all
    | child entered | exit entered => simp_all
  | child entered found earlier inside ih =>
    cases second with
    | entry refused => simp_all
    | child enteredOther foundOther earlierOther insideOther =>
      obtain rfl := index_unique found foundOther inside.not_accepted insideOther.not_accepted earlier earlierOther
      obtain rfl := Option.some.inj (found.symm.trans foundOther)
      obtain ⟨rfl, rfl⟩ := ih insideOther
      exact ⟨rfl, rfl⟩
    | exit enteredOther accepted =>
      exact absurd (accepted _ (List.mem_of_getElem? found)) inside.not_accepted
  | exit entered accepted refused =>
    cases second with
    | entry refusedOther => simp_all
    | child enteredOther found earlier inside =>
      exact absurd (accepted _ (List.mem_of_getElem? found)) inside.not_accepted
    | exit enteredOther acceptedOther refusedOther => simp_all

/-- A node breaks a rule by itself, on entry, or on exit once nothing is wrong below it. -/
def Breaks (grammar : Grammar) (node : Json) (parent : Option Json) (violation : Violation) : Prop :=
  grammar.onEntry node = .error violation ∨
    grammar.onEntry node = .ok () ∧
      (∀ child ∈ node.children, (grammar.under node).verdict child (some node) = .ok ()) ∧
      grammar.onExit node parent = .error violation

theorem failsAt_nil_iff : FailsAt grammar tree parent [] violation ↔ Breaks grammar tree parent violation := by
  constructor
  · intro fails
    cases fails with
    | entry refused => exact .inl refused
    | exit entered accepted refused => exact .inr ⟨entered, accepted, refused⟩
  · intro breaks
    rcases breaks with refused | ⟨entered, accepted, refused⟩
    · exact .entry refused
    · exact .exit entered accepted refused

theorem failsAt_cons_iff {index : Nat} : FailsAt grammar tree parent (index :: path) violation ↔
    grammar.onEntry tree = .ok () ∧
      (∀ sibling ∈ tree.children.take index, (grammar.under tree).verdict sibling (some tree) = .ok ()) ∧
      ∃ child, tree.children[index]? = some child ∧
        FailsAt (grammar.under tree) child (some tree) path violation := by
  constructor
  · intro fails
    cases fails with
    | child entered found earlier inside => exact ⟨entered, earlier, _, found, inside⟩
  · rintro ⟨entered, earlier, child, found, inside⟩
    exact .child entered found earlier inside

theorem verdict_ok_iff_forall_not_failsAt :
    grammar.verdict tree parent = .ok () ↔ ∀ path violation, ¬ FailsAt grammar tree parent path violation := by
  constructor
  · intro accepted path violation fails
    exact fails.not_accepted accepted
  · intro nowhere
    cases checked : grammar.verdict tree parent with
    | ok => rfl
    | error failure =>
      obtain ⟨path, violation, fails⟩ := exists_failsAt checked
      exact absurd fails (nowhere path violation)

/-- The first failure of a check, told from its path alone: the nodes above could be entered, everything to the left
is accepted by itself, and the node in question breaks a rule. -/
structure FirstFailure (grammar : Grammar) (tree : Json) (parent : Option Json) (path : Json.ChildPath)
    (violation : Violation) : Prop where
  entered : tree.AllAbove path fun above node => (grammar.descend tree above).onEntry node = .ok ()
  earlier : ∀ above index node, above ++ [index] <+: path → tree.childAt? above = some node →
    ∀ sibling ∈ node.children.take index,
      ((grammar.descend tree above).under node).verdict sibling (some node) = .ok ()
  refused : ∃ node, tree.childAt? path = some node ∧
    Breaks (grammar.descend tree path) node (tree.parentAt? parent path) violation

theorem firstFailure_nil : FirstFailure grammar tree parent [] violation ↔ Breaks grammar tree parent violation := by
  constructor
  · rintro ⟨-, -, node, reached, breaks⟩
    obtain rfl : tree = node := by simpa using reached
    exact breaks
  · intro breaks
    exact ⟨Json.allAbove_nil tree _, by simp, tree, rfl, breaks⟩

theorem firstFailure_cons {child : Json} {index : Nat} (found : tree.children[index]? = some child) :
    FirstFailure grammar tree parent (index :: path) violation ↔ grammar.onEntry tree = .ok () ∧
      (∀ sibling ∈ tree.children.take index, (grammar.under tree).verdict sibling (some tree) = .ok ()) ∧
      FirstFailure (grammar.under tree) child (some tree) path violation := by
  have above : (tree.AllAbove (index :: path) fun above node => (grammar.descend tree above).onEntry node = .ok ()) ↔
      grammar.onEntry tree = .ok () ∧
        child.AllAbove path fun above node => ((grammar.under tree).descend child above).onEntry node = .ok () := by
    simp only [Json.allAbove_cons found, grammar.descend_cons found, Grammar.descend_nil]
  constructor
  · rintro ⟨entered, earlier, node, reached, breaks⟩
    obtain ⟨entered, inside⟩ := above.1 entered
    refine ⟨entered, earlier [] index tree (by simp) rfl, inside, ?_, node, ?_, ?_⟩
    · intro above position node before reached
      rw [← Json.childAt?_cons found] at reached
      rw [← Grammar.descend_cons grammar found]
      exact earlier (index :: above) position node (by simpa using before) reached
    · rwa [Json.childAt?_cons found] at reached
    · rwa [Grammar.descend_cons grammar found, Json.parentAt?_cons found] at breaks
  · rintro ⟨entered, earlier, inside⟩
    obtain ⟨node, reached, breaks⟩ := inside.refused
    refine ⟨above.2 ⟨entered, inside.entered⟩, ?_, node, ?_, ?_⟩
    · intro above position node before reached
      cases above with
      | nil =>
        obtain rfl : tree = node := by simpa using reached
        obtain rfl : position = index := by simpa using before
        exact earlier
      | cons first rest =>
        obtain ⟨rfl, within⟩ : first = index ∧ rest ++ [position] <+: path := by simpa using before
        rw [Json.childAt?_cons found] at reached
        rw [Grammar.descend_cons grammar found]
        exact inside.earlier rest position node within reached
    · rwa [Json.childAt?_cons found]
    · rwa [Grammar.descend_cons grammar found, Json.parentAt?_cons found]

theorem firstFailure_iff_failsAt :
    FirstFailure grammar tree parent path violation ↔ FailsAt grammar tree parent path violation := by
  induction path generalizing grammar tree parent with
  | nil => rw [firstFailure_nil, failsAt_nil_iff]
  | cons index path ih =>
    constructor
    · intro first
      obtain ⟨node, reached, -⟩ := first.refused
      obtain ⟨child, found, -⟩ := Json.exists_child_of_childAt?_cons reached
      obtain ⟨entered, earlier, inside⟩ := (firstFailure_cons found).1 first
      exact .child entered found earlier (ih.1 inside)
    · intro fails
      obtain ⟨entered, earlier, child, found, inside⟩ := failsAt_cons_iff.1 fails
      exact (firstFailure_cons found).2 ⟨entered, earlier, ih.2 inside⟩

structure RefusedAt (tree : Json) (parent : Option Json) (path : Json.ChildPath) (node : Json)
    (violation : Violation) : Prop where
  reached : tree.childAt? path = some node
  first : FirstFailure .markdown tree parent path violation
  reported : (Markdown.tree tree parent).result =
    .error (violation.reportedAt node (tree.parentAt? parent path))

theorem RefusedAt.failsAt {node : Json} (refused : RefusedAt tree parent path node violation) :
    FailsAt .markdown tree parent path violation :=
  firstFailure_iff_failsAt.1 refused.first

theorem FailsAt.refusedAt (fails : FailsAt .markdown tree parent path violation) :
    ∃ node, RefusedAt tree parent path node violation := by
  obtain ⟨node, reached, reported⟩ := fails.verdict
  exact ⟨node, reached, firstFailure_iff_failsAt.2 fails, reported⟩

theorem exists_refusedAt (refused : (Markdown.tree tree parent).result ≠ .ok ()) :
    ∃ path node violation, RefusedAt tree parent path node violation := by
  cases checked : (Markdown.tree tree parent).result with
  | ok => exact absurd checked refused
  | error failure =>
    obtain ⟨path, violation, fails⟩ := exists_failsAt (show Grammar.verdict .markdown tree parent = _ from checked)
    obtain ⟨node, refused⟩ := fails.refusedAt
    exact ⟨path, node, violation, refused⟩

end MarkdownTree
