import MarkdownTree.Entry
import MarkdownTree.Proofs.ChildPath
import MarkdownTree.Proofs.Validators

/-! Both checks of a tree as one descent. A node is checked on entry, then its children in order, and last the node
again on exit. The grammar says which checks these are, and every node says by which grammar its children are
checked. -/

namespace MarkdownTree
open Markdown

/-- The `type` of the node is the tag of the kind. -/
def Json.HasKind (node : Json) (kind : Kind) : Prop :=
  ∃ tag, node.fields.get? "type" = some (.string tag) ∧ Kind.ofTag? tag = some kind

theorem Standing.of_eq_known_iff {node : Json} {kind : Kind} : of node = .known kind ↔ node.HasKind kind := by
  unfold of Json.HasKind
  split
  next tag typed => cases found : Kind.ofTag? tag <;> simp [typed, found]
  next other =>
    simp only [reduceCtorEq, false_iff]
    rintro ⟨tag, typed, -⟩
    exact other tag typed

def Violation.reportedAt (violation : Violation) (node : Json) (parent : Option Json) : Failure where
  ruleClass := violation.ruleClass
  message := violation.message
  place := some (Place.of node parent)

theorem Failure.locate_of_isSome {failure : Failure} (placed : failure.place.isSome) (node : Json)
    (parent : Option Json) : failure.locate node parent = failure := by
  obtain ⟨place, held⟩ := Option.isSome_iff_exists.1 placed
  simp [locate, held]

/-- A check of a node, of its children and of the node again is refused on account of the node on entry, of the first
refused child, or of the node on exit. A refused child has named its own place, which stays. -/
theorem descent_error_iff {node : Json} {parent : Option Json} {onEntry onExit : Except Violation Unit}
    {children : List Json} {check : Json → Except Failure Unit} {failure : Failure}
    (placed : ∀ child failure, check child = .error failure → failure.place.isSome) :
    Except.mapError (Failure.locate node parent) (do
      onEntry.mapError Failure.ofViolation
      children.forM check
      onExit.mapError Failure.ofViolation) = .error failure ↔
    (∃ violation, onEntry = .error violation ∧ violation.reportedAt node parent = failure) ∨
    onEntry = .ok () ∧
      ((∃ index child, children[index]? = some child ∧
        (∀ earlier ∈ children.take index, check earlier = .ok ()) ∧ check child = .error failure) ∨
      (∀ child ∈ children, check child = .ok ()) ∧
        ∃ violation, onExit = .error violation ∧ violation.reportedAt node parent = failure) := by
  simp only [mapError_error_iff, seq_error_iff, mapError_ok_iff, forM_ok_iff, forM_error_iff]
  constructor
  · rintro ⟨cause, ⟨violation, entered, rfl⟩ | ⟨entered, inside | ⟨accepted, violation, left, rfl⟩⟩, located⟩
    · exact .inl ⟨violation, entered, located⟩
    · obtain ⟨index, child, found, earlier, refused⟩ := inside
      obtain rfl : cause = failure := by
        rw [← located, Failure.locate_of_isSome (placed child cause refused)]
      exact .inr ⟨entered, .inl ⟨index, child, found, earlier, refused⟩⟩
    · exact .inr ⟨entered, .inr ⟨accepted, violation, left, located⟩⟩
  · intro refused
    rcases refused with ⟨violation, entered, rfl⟩ | ⟨entered, inside | ⟨accepted, violation, left, rfl⟩⟩
    · exact ⟨.ofViolation violation, .inl ⟨violation, entered, rfl⟩, rfl⟩
    · obtain ⟨index, child, found, earlier, refused⟩ := inside
      exact ⟨failure, .inr ⟨entered, .inl ⟨index, child, found, earlier, refused⟩⟩,
        Failure.locate_of_isSome (placed child failure refused) ..⟩
    · exact ⟨.ofViolation violation, .inr ⟨entered, .inr ⟨accepted, violation, left, rfl⟩⟩, rfl⟩

namespace Grammar

/-- The kind by which a node is checked. Where nodes are generic, a tag stands for no kind. -/
def kind? (grammar : Grammar) (node : Json) : Option Kind :=
  match grammar, node.fields.get? "type" with
  | .markdown, some (.string tag) => Kind.ofTag? tag
  | _, _ => none

/-- What is checked of a node before its children are: its category, or without a kind the form of a node. -/
def onEntry (grammar : Grammar) (node : Json) : Except Violation Unit :=
  match grammar.kind? node with
  | some kind => (categoryCheck kind.category node).map fun _ => ()
  | none => (Form.node.check node).map fun _ => ()

def onExit (grammar : Grammar) (node : Json) (parent : Option Json) : Except Violation Unit :=
  match grammar.kind? node with
  | some kind => ownRules kind node.fields parent
  | none => .ok ()

def under (grammar : Grammar) (node : Json) : Grammar :=
  match grammar.kind? node with
  | some _ => .markdown
  | none => .generic

def descend (grammar : Grammar) (tree : Json) : Json.ChildPath → Grammar
  | [] => grammar
  | index :: path =>
    match tree.children[index]? with
    | some child => (grammar.under tree).descend child path
    | none => grammar.under tree

def verdict (grammar : Grammar) (node : Json) (parent : Option Json) : Except Failure Unit :=
  (Entry.run ⟨grammar, .node⟩ node parent).result

variable (grammar : Grammar) (node : Json) (parent : Option Json)

theorem verdict_generic : verdict .generic node parent = Generic.check .node node parent := rfl

theorem verdict_markdown : verdict .markdown node parent = (visit node parent).result :=
  Run.result_logged _

theorem kind?_eq_some_iff {kind : Kind} :
    grammar.kind? node = some kind ↔ grammar = .markdown ∧ node.HasKind kind := by
  unfold kind? Json.HasKind
  split <;> simp_all

theorem kind?_of_hasKind {node : Json} {kind : Kind} (held : node.HasKind kind) : kind? .markdown node = some kind :=
  (kind?_eq_some_iff ..).2 ⟨rfl, held⟩

private theorem verdict_of_no_kind (unknown : grammar.kind? node = none) :
    grammar.verdict node parent = Generic.check .node node parent := by
  cases grammar with
  | generic => rfl
  | markdown =>
    rw [verdict_markdown, visit_eq, step, ← Generic.tree_eq]
    cases standing : Standing.of node with
    | known kind => simp [kind?_of_hasKind (Standing.of_eq_known_iff.1 standing)] at unknown
    | _ => rfl

theorem generic_children :
    ((node.children.map Generic.tree).forM fun check => check (some node)) =
      node.children.forM fun child => verdict .generic child (some node) := by
  simp only [List.forM_eq_forM, List.forM_map, Generic.tree_eq, verdict_generic]

theorem visited_children : ((node.children.map visit).forM fun check => check (some node)).result =
    node.children.forM fun child => verdict .markdown child (some node) := by
  rw [Run.result_forM]
  simp only [List.forM_eq_forM, List.forM_map, verdict_markdown]

/-- A node, its children and its own rules are checked in this order, and what fails without a place is placed at
the node. -/
theorem verdict_eq : grammar.verdict node parent = Except.mapError (Failure.locate node parent) (do
    (grammar.onEntry node).mapError Failure.ofViolation
    node.children.forM fun child => (grammar.under node).verdict child (some node)
    (grammar.onExit node parent).mapError Failure.ofViolation) := by
  cases known : grammar.kind? node with
  | none =>
    rw [verdict_of_no_kind grammar node parent known, Generic.check, Generic.step, generic_children]
    simp only [onEntry, onExit, under, known]
    cases Form.node.check node with
    | error violation => rfl
    | ok fields => cases node.children.forM fun child => verdict .generic child (some node) <;> rfl
  | some kind =>
    obtain ⟨rfl, held⟩ := (kind?_eq_some_iff ..).1 known
    rw [verdict_markdown, visit_eq, step, Standing.of_eq_known_iff.2 held]
    simp only [onEntry, onExit, under, known, Run.result_bind, Run.emit, Run.result_locate, run_validator,
      structureCheck, Run.result_liftM, visited_children]
    cases checked : categoryCheck kind.category node with
    | error violation => rfl
    | ok fields =>
      rw [fields_of_categoryCheck checked]
      cases node.children.forM fun child => verdict .markdown child (some node) <;> rfl

theorem isSome_place_of_verdict {failure : Failure} (refused : grammar.verdict node parent = .error failure) :
    failure.place.isSome := by
  rw [verdict_eq] at refused
  obtain ⟨cause, -, rfl⟩ := mapError_error_iff.1 refused
  simp [Failure.place_locate]

theorem verdict_ok_iff : grammar.verdict node parent = .ok () ↔ grammar.onEntry node = .ok () ∧
    (∀ child ∈ node.children, (grammar.under node).verdict child (some node) = .ok ()) ∧
    grammar.onExit node parent = .ok () := by
  simp only [verdict_eq grammar node, mapError_ok_iff, seq_ok_iff, forM_ok_iff]

variable {grammar node parent} in
theorem accepted_children (accepted : grammar.verdict node parent = .ok ()) :
    ∀ child ∈ node.children, (grammar.under node).verdict child (some node) = .ok () :=
  ((grammar.verdict_ok_iff node parent).1 accepted).2.1

theorem verdict_error_iff {failure : Failure} : grammar.verdict node parent = .error failure ↔
    (∃ violation, grammar.onEntry node = .error violation ∧ violation.reportedAt node parent = failure) ∨
    grammar.onEntry node = .ok () ∧
      ((∃ index child, node.children[index]? = some child ∧
        (∀ earlier ∈ node.children.take index, (grammar.under node).verdict earlier (some node) = .ok ()) ∧
        (grammar.under node).verdict child (some node) = .error failure) ∨
      (∀ child ∈ node.children, (grammar.under node).verdict child (some node) = .ok ()) ∧
        ∃ violation, grammar.onExit node parent = .error violation ∧
          violation.reportedAt node parent = failure) := by
  rw [verdict_eq]
  exact descent_error_iff fun child failure refused => isSome_place_of_verdict _ _ _ refused

@[simp] theorem descend_nil (tree : Json) : grammar.descend tree [] = grammar := rfl

theorem descend_cons {tree child : Json} {index : Nat} (found : tree.children[index]? = some child)
    (path : Json.ChildPath) : grammar.descend tree (index :: path) = (grammar.under tree).descend child path := by
  simp only [descend, found]

@[simp] theorem under_generic : under .generic node = .generic := rfl

theorem under_eq_markdown_iff : grammar.under node = .markdown ↔ ∃ kind, grammar.kind? node = some kind := by
  unfold under
  split <;> simp_all

theorem under_markdown_iff : under .markdown node = .markdown ↔ ∃ kind, node.HasKind kind := by
  simp only [under_eq_markdown_iff, kind?_eq_some_iff, true_and]

@[simp] theorem descend_generic (tree : Json) (path : Json.ChildPath) : descend .generic tree path = .generic := by
  induction path generalizing tree with
  | nil => rfl
  | cons index path ih =>
    cases found : tree.children[index]? with
    | none => simp [descend, found]
    | some child => rw [descend_cons _ found, under_generic, ih]

end Grammar

/-- Nodes are looked up by their kind as long as every node strictly above has a known tag. -/
def KindChecked (tree : Json) (path : Json.ChildPath) : Prop :=
  tree.AllAbove path fun _ node => ∃ kind, node.HasKind kind

theorem descend_eq_markdown_iff {tree node : Json} {path : Json.ChildPath}
    (reached : tree.childAt? path = some node) :
    Grammar.descend .markdown tree path = .markdown ↔ KindChecked tree path := by
  induction path generalizing tree with
  | nil => simp [KindChecked]
  | cons index path ih =>
    obtain ⟨child, found, inside⟩ := Json.exists_child_of_childAt?_cons reached
    rw [Grammar.descend_cons _ found, KindChecked, Json.allAbove_cons found, ← Grammar.under_markdown_iff tree]
    cases Grammar.under .markdown tree with
    | markdown => simpa [KindChecked] using ih inside
    | generic => simp

theorem kind?_descend_eq_some_iff {tree node : Json} {path : Json.ChildPath}
    (reached : tree.childAt? path = some node) {kind : Kind} :
    (Grammar.descend .markdown tree path).kind? node = some kind ↔ KindChecked tree path ∧ node.HasKind kind := by
  rw [Grammar.kind?_eq_some_iff, descend_eq_markdown_iff reached]

theorem under_descend_eq_markdown_iff {tree node : Json} {path : Json.ChildPath}
    (reached : tree.childAt? path = some node) :
    (Grammar.descend .markdown tree path).under node = .markdown ↔
      KindChecked tree path ∧ ∃ kind, node.HasKind kind := by
  simp only [Grammar.under_eq_markdown_iff, kind?_descend_eq_some_iff reached, exists_and_left]

end MarkdownTree
