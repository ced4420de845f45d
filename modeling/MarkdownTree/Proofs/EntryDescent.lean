import MarkdownTree.Proofs.CategoryChecks

/-! All checks of the library as one descent. Each looks at the node it is given, then at its children by a grammar,
and last at the node again; where it fails, and what it reports, follows from these three. -/

namespace MarkdownTree
open Markdown

def Event.isVisit : Event → Bool
  | .visited _ => true
  | .rejected _ => false

/-- What a run reports on its way, without the failure at its end. -/
def Run.trace (run : Run α) : List Event :=
  run.events.filter Event.isVisit

theorem Run.trace_logged (run : Run α) : run.logged.trace = run.trace := by
  unfold trace
  rw [events_logged]
  cases run.result <;> simp [Event.isVisit]

namespace Entry

def onEntry (entry : Entry) (node : Json) : Except Violation Unit :=
  match entry with
  | ⟨grammar, .node⟩ => grammar.onEntry node
  | ⟨.markdown, .literal⟩ => (categoryCheck .literal node).map fun _ => ()
  | ⟨_, form⟩ => (form.check node).map fun _ => ()

/-- What is checked of the given node after its children. A check of a form has nothing left. -/
def onExit (entry : Entry) (node : Json) (parent : Option Json) : Except Violation Unit :=
  match entry with
  | ⟨grammar, .node⟩ => grammar.onExit node parent
  | _ => .ok ()

def under (entry : Entry) (node : Json) : Grammar :=
  match entry with
  | ⟨grammar, .node⟩ => grammar.under node
  | ⟨grammar, _⟩ => grammar

variable (entry : Entry) (node : Json) (parent : Option Json)

theorem result_genericEntry (form : Form) : (Entry.run ⟨.generic, form⟩ node parent).result =
    Except.mapError (Failure.locate node parent) (do
      ((form.check node).map fun _ => ()).mapError Failure.ofViolation
      node.children.forM fun child => Grammar.verdict .generic child (some node)) := by
  change Generic.check form node parent = _
  rw [Generic.check, Generic.step, Grammar.generic_children]
  cases form.check node <;> rfl

private theorem without_exit {run : Except Failure Unit} {onEntry : Except Failure Unit}
    {children : Except Failure Unit} {place : Failure → Failure}
    (same : run = Except.mapError place (do onEntry; children)) :
    run = Except.mapError place (do onEntry; children; .ok ()) := by
  rw [same]
  cases onEntry with
  | error failure => rfl
  | ok => cases children <;> rfl

/-- Every check comes to what is checked on entry, of the children and on exit, in this order. -/
theorem result_run : (entry.run node parent).result = Except.mapError (Failure.locate node parent) (do
    (entry.onEntry node).mapError Failure.ofViolation
    node.children.forM fun child => (entry.under node).verdict child (some node)
    (entry.onExit node parent).mapError Failure.ofViolation) := by
  obtain ⟨grammar, form⟩ := entry
  cases grammar with
  | generic =>
    cases form with
    | node => exact Grammar.verdict_eq .generic node parent
    | parent => exact without_exit (result_genericEntry node parent .parent)
    | literal => exact without_exit (result_genericEntry node parent .literal)
    | void => exact without_exit (result_genericEntry node parent .void)
  | markdown =>
    cases form with
    | node => exact Grammar.verdict_eq .markdown node parent
    | parent => exact without_exit (result_categoryEntry .parent node parent)
    | literal => exact without_exit (result_categoryEntry .literal node parent)
    | void => exact without_exit (result_categoryEntry .void node parent)

/-- The path at which a check fails and the rule broken there: the given node itself, on entry or on exit, or the
first of its children that is refused. -/
inductive FailsAt (entry : Entry) (node : Json) (parent : Option Json) : Json.ChildPath → Violation → Prop
  | entry {violation} (refused : entry.onEntry node = .error violation) : FailsAt entry node parent [] violation
  | child {index child path violation} (entered : entry.onEntry node = .ok ())
    (found : node.children[index]? = some child)
    (earlier : ∀ sibling ∈ node.children.take index, (entry.under node).verdict sibling (some node) = .ok ())
    (inside : MarkdownTree.FailsAt (entry.under node) child (some node) path violation) :
    FailsAt entry node parent (index :: path) violation
  | exit {violation} (entered : entry.onEntry node = .ok ())
    (accepted : ∀ child ∈ node.children, (entry.under node).verdict child (some node) = .ok ())
    (refused : entry.onExit node parent = .error violation) : FailsAt entry node parent [] violation

theorem failsAt_node_iff {grammar : Grammar} {tree : Json} {parent : Option Json} {path : Json.ChildPath}
    {violation : Violation} : FailsAt ⟨grammar, .node⟩ tree parent path violation ↔
      MarkdownTree.FailsAt grammar tree parent path violation := by
  constructor
  · intro fails
    cases fails with
    | entry refused => exact .entry refused
    | child entered found earlier inside => exact .child entered found earlier inside
    | exit entered accepted refused => exact .exit entered accepted refused
  · intro fails
    cases fails with
    | entry refused => exact .entry refused
    | child entered found earlier inside => exact .child entered found earlier inside
    | exit entered accepted refused => exact .exit entered accepted refused

structure RefusedAt (entry : Entry) (tree : Json) (parent : Option Json) (path : Json.ChildPath) (node : Json)
    (violation : Violation) : Prop where
  reached : tree.childAt? path = some node
  fails : entry.FailsAt tree parent path violation
  reported : (entry.run tree parent).result = .error (violation.reportedAt node (tree.parentAt? parent path))

variable {entry node parent} {tree : Json} {path : Json.ChildPath} {violation : Violation}

theorem result_error_iff {failure : Failure} : (entry.run node parent).result = .error failure ↔
    (∃ violation, entry.onEntry node = .error violation ∧ violation.reportedAt node parent = failure) ∨
    entry.onEntry node = .ok () ∧
      ((∃ index child, node.children[index]? = some child ∧
        (∀ earlier ∈ node.children.take index, (entry.under node).verdict earlier (some node) = .ok ()) ∧
        (entry.under node).verdict child (some node) = .error failure) ∨
      (∀ child ∈ node.children, (entry.under node).verdict child (some node) = .ok ()) ∧
        ∃ violation, entry.onExit node parent = .error violation ∧ violation.reportedAt node parent = failure) := by
  rw [result_run]
  exact descent_error_iff fun child failure refused => Grammar.isSome_place_of_verdict _ _ _ refused

theorem FailsAt.refusedAt (fails : entry.FailsAt tree parent path violation) :
    ∃ node, entry.RefusedAt tree parent path node violation := by
  have reports := fails
  cases reports with
  | entry refused => exact ⟨tree, rfl, fails, result_error_iff.2 (.inl ⟨violation, refused, rfl⟩)⟩
  | @child index child path violation entered found earlier inside =>
    obtain ⟨node, reached, refused⟩ := inside.verdict
    refine ⟨node, by rw [Json.childAt?_cons found, reached], fails, ?_⟩
    rw [Json.parentAt?_cons found]
    exact result_error_iff.2 (.inr ⟨entered, .inl ⟨index, child, found, earlier, refused⟩⟩)
  | exit entered accepted refused =>
    exact ⟨tree, rfl, fails, result_error_iff.2 (.inr ⟨entered, .inr ⟨accepted, violation, refused, rfl⟩⟩)⟩

theorem exists_refusedAt {failure : Failure} (refused : (entry.run tree parent).result = .error failure) :
    ∃ path node violation, entry.RefusedAt tree parent path node violation := by
  obtain ⟨violation, entry, -⟩ | ⟨entered, inside | ⟨accepted, violation, exit, -⟩⟩ := result_error_iff.1 refused
  · obtain ⟨node, refused⟩ := FailsAt.refusedAt (.entry entry)
    exact ⟨[], node, violation, refused⟩
  · obtain ⟨index, child, found, earlier, refused⟩ := inside
    obtain ⟨path, violation, fails⟩ := exists_failsAt refused
    obtain ⟨node, refused⟩ := FailsAt.refusedAt (.child entered found earlier fails)
    exact ⟨index :: path, node, violation, refused⟩
  · obtain ⟨node, refused⟩ := FailsAt.refusedAt (.exit entered accepted exit)
    exact ⟨[], node, violation, refused⟩

theorem RefusedAt.not_accepted {node : Json} (refused : entry.RefusedAt tree parent path node violation) :
    (entry.run tree parent).result ≠ .ok () := by
  simp [refused.reported]

/-- Two runs of a check come out alike: both accept, or both fail in the same place for the same reason. -/
def SameOutcome (entry : Entry) (tree other : Json) (parent above : Option Json) : Prop :=
  ((entry.run tree parent).result = .ok () ∧ (entry.run other above).result = .ok ()) ∨
    ∃ path node counterpart violation, entry.RefusedAt tree parent path node violation ∧
      entry.RefusedAt other above path counterpart violation

theorem SameOutcome.of_failsAt {other : Json} {above : Option Json}
    (same : ∀ path violation, entry.FailsAt tree parent path violation ↔ entry.FailsAt other above path violation) :
    entry.SameOutcome tree other parent above := by
  cases checked : (entry.run tree parent).result with
  | error failure =>
    obtain ⟨path, node, violation, refused⟩ := exists_refusedAt checked
    obtain ⟨counterpart, refusedOther⟩ := ((same path violation).1 refused.fails).refusedAt
    exact .inr ⟨path, node, counterpart, violation, refused, refusedOther⟩
  | ok =>
    cases checkedOther : (entry.run other above).result with
    | ok => exact .inl ⟨checked, checkedOther⟩
    | error failure =>
      obtain ⟨path, counterpart, violation, refusedOther⟩ := exists_refusedAt checkedOther
      obtain ⟨node, refused⟩ := ((same path violation).2 refusedOther.fails).refusedAt
      exact absurd checked refused.not_accepted

theorem SameOutcome.refused {other : Json} {above : Option Json} {failure : Failure}
    (same : entry.SameOutcome tree other parent above) (failed : (entry.run tree parent).result = .error failure) :
    ∃ path node counterpart violation, entry.RefusedAt tree parent path node violation ∧
      entry.RefusedAt other above path counterpart violation := by
  obtain ⟨accepted, -⟩ | both := same
  · cases failed.symm.trans accepted
  · exact both

end Entry
end MarkdownTree
