import Mathlib.Data.List.Basic
import MarkdownTree.Proofs.FirstFailure

/-! The events of a check are its visits: one for every node that is looked up by its kind, from the top down and
from left to right, up to the failure if there is one. -/

namespace MarkdownTree
open Markdown

abbrev Visits := List (Json.ChildPath × Json)

/-- A visited node whose children are visited as well: one of a parent kind that has the form of a parent. -/
def opens (node : Json) : Bool :=
  match Grammar.kind? .markdown node with
  | some kind => kind.isParent && (Form.parent.check node).isOk
  | none => false

def Visits.lift (index : Nat) (visits : Visits) : Visits :=
  visits.map fun visit => (index :: visit.1, visit.2)

def visits : Json → Visits :=
  Json.childFold fun node below =>
    ([], node) :: if opens node then below.zipIdx.flatMap fun child => Visits.lift child.2 child.1 else []

/-- The visits at and below the children of one node, the first of which has the given index. -/
def visitsBelow (offset : Nat) (children : List Json) : Visits :=
  (children.zipIdx offset).flatMap fun child => Visits.lift child.2 (visits child.1)

theorem visits_eq (node : Json) :
    visits node = ([], node) :: if opens node then visitsBelow 0 node.children else [] := by
  rw [visits, Json.childFold_eq, visitsBelow, List.zipIdx_map, List.flatMap_map]
  rfl

theorem visitsBelow_cons (offset : Nat) (child : Json) (rest : List Json) :
    visitsBelow offset (child :: rest) = Visits.lift offset (visits child) ++ visitsBelow (offset + 1) rest := rfl

theorem mem_visits_iff {tree node : Json} {path : Json.ChildPath} : (path, node) ∈ visits tree ↔
    tree.childAt? path = some node ∧ tree.AllAbove path fun _ above => opens above = true := by
  induction path generalizing tree with
  | nil =>
    rw [visits_eq]
    split <;> simp [visitsBelow, Visits.lift, @eq_comm _ node]
  | cons index path ih =>
    have below : (index :: path, node) ∈ visits tree ↔ opens tree = true ∧
        ∃ child, tree.children[index]? = some child ∧ (path, node) ∈ visits child := by
      rw [visits_eq]
      split <;> simp_all [visitsBelow, Visits.lift, List.mem_zipIdx_iff_getElem?]
    rw [below]
    constructor
    · rintro ⟨opened, child, found, member⟩
      obtain ⟨reached, above⟩ := ih.1 member
      exact ⟨by rwa [Json.childAt?_cons found], (Json.allAbove_cons found ..).2 ⟨opened, above⟩⟩
    · rintro ⟨reached, above⟩
      obtain ⟨child, found, inside⟩ := Json.exists_child_of_childAt?_cons reached
      obtain ⟨opened, above⟩ := (Json.allAbove_cons found ..).1 above
      exact ⟨opened, child, found, ih.2 ⟨inside, above⟩⟩

/-- Whether a path lies strictly to the right of another: where they part, it takes a later child. -/
def isRightOf : Json.ChildPath → Json.ChildPath → Bool
  | later :: other, index :: path => index < later || index = later && isRightOf other path
  | _, _ => false

theorem isRightOf_iff {other path : Json.ChildPath} : isRightOf other path = true ↔
    ∃ common index later rest others, path = common ++ index :: rest ∧ other = common ++ later :: others ∧
      index < later := by
  constructor
  · intro right
    fun_induction isRightOf other path with
    | case1 later other index path ih =>
      obtain less | ⟨rfl, inner⟩ : index < later ∨ index = later ∧ isRightOf other path = true := by
        simpa using right
      · exact ⟨[], index, later, path, other, rfl, rfl, less⟩
      · obtain ⟨common, first, second, rest, others, rfl, rfl, less⟩ := ih inner
        exact ⟨index :: common, first, second, rest, others, rfl, rfl, less⟩
    | case2 => cases right
  · rintro ⟨common, index, later, rest, others, rfl, rfl, less⟩
    induction common with
    | nil => simp [isRightOf, less]
    | cons first common ih => simp [isRightOf, ih]

-- What is above a place, below it or at it is not to the right of it.
example : isRightOf [0, 2] [0, 1, 5] = true ∧ isRightOf [0, 1] [0, 1, 5] = false ∧
    isRightOf [0, 1, 5, 7] [0, 1, 5] = false := by decide

/-- The visits up to a failure: all but those to the right of it. -/
def visitsUpTo (path : Json.ChildPath) (visits : Visits) : Visits :=
  visits.filter fun visit => !isRightOf visit.1 path

def visited (visit : Json.ChildPath × Json) : Event :=
  .visited (Standing.of visit.2)

@[simp] theorem map_visited_lift (index : Nat) (visits : Visits) :
    (Visits.lift index visits).map visited = visits.map visited := by
  simp [Visits.lift, Function.comp_def, visited]

theorem map_visited_visitsBelow (offset : Nat) (children : List Json) :
    (visitsBelow offset children).map visited = children.flatMap fun child => (visits child).map visited := by
  induction children generalizing offset with
  | nil => rfl
  | cons child rest ih => simp [visitsBelow_cons, ih]

theorem visitsUpTo_nil (visits : Visits) : visitsUpTo [] visits = visits := by
  refine List.filter_eq_self.2 fun visit _ => ?_
  cases visit.1 <;> rfl

theorem visitsUpTo_lift (index : Nat) (path : Json.ChildPath) (visits : Visits) :
    visitsUpTo (index :: path) (Visits.lift index visits) = Visits.lift index (visitsUpTo path visits) := by
  simp [visitsUpTo, Visits.lift, List.filter_map, Function.comp_def, isRightOf]

theorem visitsUpTo_lift_of_lt {index offset : Nat} (before : offset < index) (path : Json.ChildPath)
    (visits : Visits) : visitsUpTo (index :: path) (Visits.lift offset visits) = Visits.lift offset visits := by
  refine List.filter_eq_self.2 fun visit member => ?_
  obtain ⟨inner, -, rfl⟩ := List.mem_map.1 member
  simp [isRightOf]
  omega

theorem visitsUpTo_lift_of_gt {index offset : Nat} (after : index < offset) (path : Json.ChildPath)
    (visits : Visits) : visitsUpTo (index :: path) (Visits.lift offset visits) = [] := by
  simp [visitsUpTo, Visits.lift, List.filter_map, Function.comp_def, isRightOf, after]

theorem visitsUpTo_append (path : Json.ChildPath) (first second : Visits) :
    visitsUpTo path (first ++ second) = visitsUpTo path first ++ visitsUpTo path second :=
  List.filter_append ..

private theorem visitsUpTo_visitsBelow_of_gt {index offset : Nat} (after : index < offset) (path : Json.ChildPath)
    (children : List Json) : visitsUpTo (index :: path) (visitsBelow offset children) = [] := by
  induction children generalizing offset with
  | nil => rfl
  | cons child rest ih =>
    rw [visitsBelow_cons, visitsUpTo_append, visitsUpTo_lift_of_gt after, ih (by omega)]
    rfl

theorem visitsUpTo_visitsBelow {children : List Json} {index : Nat} {child : Json}
    (found : children[index]? = some child) (offset : Nat) (path : Json.ChildPath) :
    (visitsUpTo ((offset + index) :: path) (visitsBelow offset children)).map visited =
      ((children.take index).flatMap fun sibling => (visits sibling).map visited) ++
        (visitsUpTo path (visits child)).map visited := by
  induction children generalizing offset index with
  | nil => simp at found
  | cons first rest ih =>
    rw [visitsBelow_cons, visitsUpTo_append, List.map_append]
    cases index with
    | zero =>
      obtain rfl : first = child := by simpa using found
      rw [Nat.add_zero, visitsUpTo_lift, visitsUpTo_visitsBelow_of_gt (Nat.lt_succ_self offset)]
      simp
    | succ index =>
      have inside := ih (by simpa using found) (offset + 1)
      rw [visitsUpTo_lift_of_lt (by omega), ← Nat.add_assoc, Nat.add_right_comm, inside]
      simp

theorem opens_iff {node : Json} : opens node = true ↔ ∃ kind, Grammar.kind? .markdown node = some kind ∧
    kind.category = .parent ∧ Grammar.onEntry .markdown node = .ok () := by
  have isOk (check : Except Violation Json.Fields) : check.isOk = true ↔ check.map (fun _ => ()) = .ok () := by
    cases check <;> simp [Except.isOk, Except.toBool, Except.map]
  unfold opens Grammar.onEntry
  cases Grammar.kind? .markdown node with
  | some kind =>
    simp only [Kind.isParent, Option.some.injEq, exists_eq_left', Bool.and_eq_true, decide_eq_true_eq, isOk]
    refine and_congr_right fun category => ?_
    rw [category, categoryCheck]
  | none => simp

theorem opens_congr {node other : Json} (known : Grammar.kind? .markdown node = Grammar.kind? .markdown other)
    (entered : Grammar.onEntry .markdown node = Grammar.onEntry .markdown other) : opens node = opens other := by
  rw [Bool.eq_iff_iff, opens_iff, opens_iff, known, entered]

theorem under_of_opens {node : Json} (opened : opens node = true) : Grammar.under .markdown node = .markdown := by
  obtain ⟨kind, known, -⟩ := opens_iff.1 opened
  exact (Grammar.under_eq_markdown_iff ..).2 ⟨kind, known⟩

theorem events_structureCheck (category : Category) (node : Json) (children : List (Option Json → Run Unit)) :
    (structureCheck category node children).events = match categoryCheck category node with
      | .ok _ => (children.forM (· (some node))).events
      | .error _ => [] := by
  rw [structureCheck, Run.events_bind, Run.events_liftM, Run.result_liftM, List.nil_append]
  cases categoryCheck category node with
  | ok fields => exact Run.events_bind_of_silent _ fun _ => rfl
  | error violation => rfl

/-- A node is reported before it is checked, and then what is below it. -/
theorem events_visit (node : Json) (parent : Option Json) :
    (visit node parent).events = .visited (Standing.of node) ::
      if opens node then (node.children.forM fun child => visit child (some node)).events else [] := by
  rw [visit_eq]
  simp only [step, Run.events_bind, Run.emit, List.singleton_append, List.cons.injEq, true_and]
  cases standing : Standing.of node with
  | untyped | extension tag =>
    have closed : opens node = false := by
      simp [← Bool.not_eq_true, opens_iff, Grammar.kind?_eq_some_iff, ← Standing.of_eq_known_iff, standing]
    simp [closed]
  | known kind =>
    have known := Grammar.kind?_of_hasKind (Standing.of_eq_known_iff.1 standing)
    have entry : Grammar.onEntry .markdown node = (categoryCheck kind.category node).map fun _ => () := by
      simp only [Grammar.onEntry, known]
    simp only [Run.events_locate, run_validator]
    rw [Run.events_bind_of_silent _ fun _ => rfl, events_structureCheck]
    cases checked : categoryCheck kind.category node with
    | error violation =>
      have closed : opens node = false := by
        simp [← Bool.not_eq_true, opens_iff, entry, checked, Except.map]
      simp [closed]
    | ok fields =>
      cases opened : opens node with
      | true => simp
      | false =>
        have childless : kind.category ≠ .parent := by
          intro category
          have opening := opens_iff.2 ⟨kind, known, category, by rw [entry, checked]; rfl⟩
          simp [opening] at opened
        simp [children_eq_nil_of_categoryCheck childless checked]

theorem events_visit_of_children {node : Json} (accepted : ∀ child ∈ node.children,
    (Grammar.under .markdown node).verdict child (some node) = .ok ()) (parent : Option Json) :
    (visit node parent).events = (visits node).map visited := by
  induction node using Json.childInduction generalizing parent with
  | step node ih =>
    rw [events_visit, visits_eq]
    cases opened : opens node with
    | false => rfl
    | true =>
      rw [under_of_opens opened] at accepted
      have results : ∀ child ∈ node.children, (visit child (some node)).result = .ok () := fun child member =>
        (Grammar.verdict_markdown ..).symm.trans (accepted child member)
      simp only [if_true, List.map_cons, Run.events_forM _ _ results, map_visited_visitsBelow]
      refine congrArg (visited ([], node) :: ·) (List.flatMap_congr fun child member => ?_)
      exact ih child member (Grammar.accepted_children (accepted child member)) _

theorem events_visit_of_failsAt {grammar : Grammar} {node : Json} {parent : Option Json} {path : Json.ChildPath}
    {violation : Violation} (fails : FailsAt grammar node parent path violation) (markdown : grammar = .markdown) :
    (visit node parent).events = (visitsUpTo path (visits node)).map visited := by
  induction fails with
  | @entry grammar node parent violation refused =>
    subst markdown
    have closed : opens node = false := by simp [← Bool.not_eq_true, opens_iff, refused]
    rw [visitsUpTo_nil, visits_eq, events_visit]
    simp [closed, visited]
  | @child grammar node parent index child path violation entered found earlier inside ih =>
    subst markdown
    have top (below : Visits) :
        visitsUpTo (index :: path) (([], node) :: below) = ([], node) :: visitsUpTo (index :: path) below := rfl
    rw [events_visit, visits_eq, top]
    cases opened : opens node with
    | false => rfl
    | true =>
      rw [under_of_opens opened] at earlier inside ih
      obtain ⟨place, -, refused⟩ := inside.verdict
      rw [Grammar.verdict_markdown] at refused
      have results : ∀ sibling ∈ node.children.take index, (visit sibling (some node)).result = .ok () :=
        fun sibling member => (Grammar.verdict_markdown ..).symm.trans (earlier sibling member)
      have siblings : ((node.children.take index).flatMap fun sibling => (visit sibling (some node)).events) =
          (node.children.take index).flatMap fun sibling => (visits sibling).map visited :=
        List.flatMap_congr fun sibling member =>
          events_visit_of_children (Grammar.accepted_children (earlier sibling member)) _
      have below := visitsUpTo_visitsBelow found 0 path
      rw [Nat.zero_add] at below
      simp only [if_true, Run.events_forM_of_error found results refused, siblings, ih rfl, List.map_cons, below]
      rfl
  | @exit grammar node parent violation entered accepted refused =>
    subst markdown
    rw [visitsUpTo_nil, events_visit_of_children accepted]

def visitEntry (node : Json) : List (String × String) :=
  match node.fields.get? "type" with
  | some (.string tag) =>
    if (Kind.ofTag? tag).isSome then
      [("level", "TRACE"), ("message", "asserting node"), ("node_type", tag)]
    else
      [("level", "TRACE"), ("message", "extension node, checking generic shape"), ("node_type", tag)]
  | _ => [("level", "TRACE"), ("message", "node has no usable type, checking generic shape")]

def failureEntry (failure : Failure) : List (String × String) :=
  [("level", "DEBUG"), ("message", "mdast assertion failed: " ++ failure.display),
    ("kind", match failure.ruleClass with
      | .shape => "Shape"
      | .fieldType => "FieldType"
      | .fieldRange => "FieldRange"
      | .fieldEnum => "FieldEnum"
      | .crossField => "CrossField"
      | .context => "Context")]

theorem attributes_rejected (failure : Failure) : (Event.rejected failure).attributes = failureEntry failure := by
  rw [Event.attributes, failureEntry]
  cases failure.ruleClass <;> rfl

theorem attributes_visited (visit : Json.ChildPath × Json) : (visited visit).attributes = visitEntry visit.2 := by
  simp only [visited, visitEntry, Standing.of]
  cases visit.2.fields.get? "type" with
  | none => rfl
  | some value =>
    cases value with
    | string tag =>
      cases found : Kind.ofTag? tag with
      | some kind => simp [found, Event.attributes, Kind.tag_of_ofTag? found]
      | none => simp [found, Event.attributes]
    | _ => rfl

/-- A check logs the visits of the tree in order and nothing else if it accepts. If it refuses, it logs the visits
up to the first failure, and then that failure once. -/
theorem log_eq_visits (tree : Json) (parent : Option Json) :
    match (Markdown.tree tree parent).result with
    | .ok () => (Markdown.tree tree parent).events.map Event.attributes =
        (visits tree).map fun visit => visitEntry visit.2
    | .error failure => ∃ path node violation, FirstFailure .markdown tree parent path violation ∧
        tree.childAt? path = some node ∧ failure = violation.reportedAt node (tree.parentAt? parent path) ∧
        (Markdown.tree tree parent).events.map Event.attributes =
          (visitsUpTo path (visits tree)).map (fun visit => visitEntry visit.2) ++ [failureEntry failure] := by
  have entries (visits : Visits) :
      (visits.map visited).map Event.attributes = visits.map fun visit => visitEntry visit.2 := by
    simp only [List.map_map, Function.comp_def, attributes_visited]
  rw [Markdown.tree, Run.events_logged, Run.result_logged]
  cases checked : (visit tree parent).result with
  | ok =>
    rw [← Grammar.verdict_markdown] at checked
    simp only [List.append_nil, events_visit_of_children (Grammar.accepted_children checked), entries]
  | error failure =>
    rw [← Grammar.verdict_markdown] at checked
    obtain ⟨path, violation, fails⟩ := exists_failsAt checked
    obtain ⟨node, reached, reported⟩ := fails.verdict
    obtain rfl := Except.error.inj (checked.symm.trans reported)
    refine ⟨path, node, violation, firstFailure_iff_failsAt.2 fails, reached, rfl, ?_⟩
    rw [List.map_append, events_visit_of_failsAt fails rfl, entries, List.map_singleton, attributes_rejected]

end MarkdownTree
