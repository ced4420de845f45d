import Mathlib.Data.List.Forall2
import Mathlib.Order.Basic
import MarkdownTree.Proofs.EntryDescent
import MarkdownTree.Proofs.Replacement
import MarkdownTree.Proofs.VisitEvents

/-! Two trees that match node by node. If their grammars cannot tell the nodes in the same place apart, the trees come
out alike: with the same visits, and either both accepted or refused in the same place for the same reason. -/

namespace MarkdownTree
open Markdown

theorem getElem?_cases_of_forall₂ {relates : α → β → Prop} {items : List α} {others : List β}
    (pairs : List.Forall₂ relates items others) (index : Nat) :
    (items[index]? = none ∧ others[index]? = none) ∨
      ∃ item counterpart, items[index]? = some item ∧ others[index]? = some counterpart ∧ relates item counterpart := by
  induction pairs generalizing index with
  | nil => exact .inl ⟨rfl, rfl⟩
  | @cons item counterpart rest others same pairs ih =>
    cases index with
    | zero => exact .inr ⟨item, counterpart, rfl, rfl, same⟩
    | succ index => exact ih index

/-- Trees that branch alike and have alike nodes in the same place. What counts as alike may depend on the grammar by
which the place is checked. -/
structure AlikeThroughout (alike : Grammar → Json → Json → Prop) (grammar : Grammar) (tree other : Json) : Prop where
  branching : ∀ path, (tree.childAt? path).isSome = (other.childAt? path).isSome
  nodes : ∀ path node counterpart, tree.childAt? path = some node → other.childAt? path = some counterpart →
    alike (grammar.descend tree path) node counterpart

namespace AlikeThroughout
variable {alike weaker : Grammar → Json → Json → Prop} {grammar : Grammar} {tree other : Json}

theorem mono (matching : AlikeThroughout alike grammar tree other)
    (implies : ∀ grammar node counterpart, alike grammar node counterpart → weaker grammar node counterpart) :
    AlikeThroughout weaker grammar tree other where
  branching := matching.branching
  nodes path node counterpart reached reachedOther :=
    implies _ _ _ (matching.nodes path node counterpart reached reachedOther)

theorem here (matching : AlikeThroughout alike grammar tree other) : alike grammar tree other :=
  matching.nodes [] tree other rfl rfl

theorem length_children (matching : AlikeThroughout alike grammar tree other) :
    tree.children.length = other.children.length := by
  refine eq_of_forall_lt_iff fun index => ?_
  have single (node : Json) : (node.childAt? [index]).isSome ↔ index < node.children.length := by
    rw [Json.childAt?]
    cases found : node.children[index]? with
    | none => simpa using found
    | some child => simpa using (List.getElem?_eq_some_iff.1 found).1
  rw [← single, ← single, matching.branching]

theorem child (matching : AlikeThroughout alike grammar tree other) {index : Nat} {child counterpart : Json}
    (found : tree.children[index]? = some child) (foundOther : other.children[index]? = some counterpart) :
    AlikeThroughout alike (grammar.under tree) child counterpart where
  branching path := by
    rw [← Json.childAt?_cons found, ← Json.childAt?_cons foundOther]
    exact matching.branching (index :: path)
  nodes path node other reached reachedOther := by
    rw [← Json.childAt?_cons found] at reached
    rw [← Json.childAt?_cons foundOther] at reachedOther
    rw [← grammar.descend_cons found]
    exact matching.nodes (index :: path) node other reached reachedOther

/-- What holds of two alike nodes whenever it holds of all their children, pair by pair, holds of alike trees. -/
theorem induction {motive : Grammar → Json → Json → Prop}
    (step : ∀ grammar node counterpart, alike grammar node counterpart →
      List.Forall₂ (fun child other => AlikeThroughout alike (grammar.under node) child other ∧
        motive (grammar.under node) child other) node.children counterpart.children →
      motive grammar node counterpart)
    (matching : AlikeThroughout alike grammar tree other) : motive grammar tree other := by
  induction tree using Json.childInduction generalizing grammar other with
  | step tree ih =>
    refine step grammar tree other matching.here (List.forall₂_iff_get.2 ⟨matching.length_children, ?_⟩)
    intro index inside insideOther
    have below := matching.child (List.getElem?_eq_getElem inside) (List.getElem?_eq_getElem insideOther)
    exact ⟨below, ih _ (List.getElem_mem inside) below⟩

theorem of_children (here : alike grammar tree other)
    (below : List.Forall₂ (AlikeThroughout alike (grammar.under tree)) tree.children other.children) :
    AlikeThroughout alike grammar tree other where
  branching path := by
    cases path with
    | nil => rfl
    | cons index path =>
      rcases getElem?_cases_of_forall₂ below index with ⟨missing, missingOther⟩ | ⟨child, counterpart, pair⟩
      · simp [Json.childAt?, missing, missingOther]
      · obtain ⟨found, foundOther, matching⟩ := pair
        rw [Json.childAt?_cons found, Json.childAt?_cons foundOther]
        exact matching.branching path
  nodes path node other reached reachedOther := by
    cases path with
    | nil =>
      cases reached
      cases reachedOther
      exact here
    | cons index path =>
      obtain ⟨child, found, inside⟩ := Json.exists_child_of_childAt?_cons reached
      obtain ⟨counterpart, foundOther, insideOther⟩ := Json.exists_child_of_childAt?_cons reachedOther
      rcases getElem?_cases_of_forall₂ below index with ⟨missing, -⟩ | ⟨_, _, again, againOther, matching⟩
      · simp [missing] at found
      · obtain rfl := Option.some.inj (again.symm.trans found)
        obtain rfl := Option.some.inj (againOther.symm.trans foundOther)
        rw [grammar.descend_cons found]
        exact matching.nodes path node other inside insideOther

end AlikeThroughout

structure Grammar.Indistinct (grammar : Grammar) (node other : Json) : Prop where
  known : grammar.kind? node = grammar.kind? other
  entered : grammar.onEntry node = grammar.onEntry other
  left : ∀ parent, grammar.onExit node parent = grammar.onExit other parent

theorem Grammar.Indistinct.under {grammar : Grammar} {node other : Json} (same : grammar.Indistinct node other) :
    grammar.under node = grammar.under other := by
  simp only [Grammar.under, same.known]

def FailAlike (grammar : Grammar) (tree other : Json) : Prop :=
  ∀ parent above : Option Json, parent.isSome = above.isSome → ∀ path violation,
    FailsAt grammar tree parent path violation ↔ FailsAt grammar other above path violation

theorem FailAlike.verdict_ok_iff {grammar : Grammar} {tree other : Json} (same : FailAlike grammar tree other)
    {parent above : Option Json} (beyond : parent.isSome = above.isSome) :
    grammar.verdict tree parent = .ok () ↔ grammar.verdict other above = .ok () := by
  simp only [verdict_ok_iff_forall_not_failsAt, same parent above beyond]

theorem forall_verdict_ok_iff {grammar : Grammar} {items others : List Json} {parent above : Option Json}
    (pairs : List.Forall₂ (FailAlike grammar) items others) (beyond : parent.isSome = above.isSome) :
    (∀ item ∈ items, grammar.verdict item parent = .ok ()) ↔ ∀ item ∈ others, grammar.verdict item above = .ok () := by
  induction pairs with
  | nil => simp
  | cons same pairs ih => simp only [List.forall_mem_cons, same.verdict_ok_iff beyond, ih]

theorem FailAlike.symm {grammar : Grammar} {tree other : Json} (same : FailAlike grammar tree other) :
    FailAlike grammar other tree := by
  intro parent above beyond path violation
  exact (same above parent beyond.symm path violation).symm

namespace Entry
variable {entry : Entry} {tree other : Json} {parent above : Option Json} {path : Json.ChildPath}
  {violation : Violation}

theorem FailsAt.congr (fails : entry.FailsAt tree parent path violation)
    (entered : entry.onEntry tree = entry.onEntry other) (left : entry.onExit tree parent = entry.onExit other above)
    (under : entry.under tree = entry.under other)
    (below : List.Forall₂ (FailAlike (entry.under tree)) tree.children other.children) :
    entry.FailsAt other above path violation := by
  have child : (some tree).isSome = (some other).isSome := rfl
  cases fails with
  | entry refused => exact .entry (entered ▸ refused)
  | @child index item path violation inward found earlier inside =>
    rcases getElem?_cases_of_forall₂ below index with ⟨missing, -⟩ | ⟨first, counterpart, again, foundOther, alike⟩
    · simp [missing] at found
    · obtain rfl := Option.some.inj (again.symm.trans found)
      have inside := (alike _ _ child path violation).1 inside
      have earlier := (forall_verdict_ok_iff (List.forall₂_take index below) child).1 earlier
      rw [under] at inside earlier
      exact .child (entered ▸ inward) foundOther earlier inside
  | exit inward accepted refused =>
    have accepted := (forall_verdict_ok_iff below child).1 accepted
    rw [under] at accepted
    exact .exit (entered ▸ inward) accepted (left ▸ refused)

/-- A check that makes the same of two nodes fails alike on them if their children fail alike, pair by pair. -/
theorem failsAt_congr (entered : entry.onEntry tree = entry.onEntry other)
    (left : entry.onExit tree parent = entry.onExit other above) (under : entry.under tree = entry.under other)
    (below : List.Forall₂ (FailAlike (entry.under tree)) tree.children other.children) :
    entry.FailsAt tree parent path violation ↔ entry.FailsAt other above path violation := by
  constructor
  · intro fails
    exact fails.congr entered left under below
  · intro fails
    rw [under] at below
    have backwards : List.Forall₂ (FailAlike (entry.under other)) other.children tree.children :=
      List.Forall₂.flip (below.imp fun _ _ same => same.symm)
    exact fails.congr entered.symm left.symm under.symm backwards

end Entry

theorem Grammar.Indistinct.failAlike {grammar : Grammar} {node other : Json} (same : grammar.Indistinct node other)
    (below : List.Forall₂ (FailAlike (grammar.under node)) node.children other.children) :
    FailAlike grammar node other := by
  intro parent above beyond path violation
  have left : grammar.onExit node parent = grammar.onExit other above := by rw [same.left, onExit_congr beyond]
  rw [← Entry.failsAt_node_iff, ← Entry.failsAt_node_iff]
  exact Entry.failsAt_congr same.entered left same.under below

theorem AlikeThroughout.failAlike {grammar : Grammar} {tree other : Json}
    (matching : AlikeThroughout Grammar.Indistinct grammar tree other) : FailAlike grammar tree other :=
  matching.induction fun _ _ _ same below => same.failAlike (below.imp fun _ _ pair => pair.2)

theorem Run.events_forM_congr {items others : List α} {check counterpart : α → Run Unit}
    (pairs : List.Forall₂ (fun item other => (check item).events = (counterpart other).events ∧
      ((check item).result = .ok () ↔ (counterpart other).result = .ok ())) items others) :
    (items.forM check).events = (others.forM counterpart).events := by
  induction pairs with
  | nil => rfl
  | @cons item other rest others same pairs ih =>
    obtain ⟨events, accepted⟩ := same
    simp only [List.forM_eq_forM] at ih
    simp only [List.forM_eq_forM, List.forM_cons, events_bind, events, ih]
    cases first : (check item).result with
    | ok => rw [accepted.1 first]
    | error failure =>
      cases second : (counterpart other).result with
      | ok => simp [accepted.2 second] at first
      | error failure => rfl

def Grammar.Interchangeable (grammar : Grammar) (node other : Json) : Prop :=
  grammar.Indistinct node other ∧ Standing.of node = Standing.of other

def VisitAlike (grammar : Grammar) (tree other : Json) : Prop :=
  grammar = .markdown → ∀ parent above, (visit tree parent).events = (visit other above).events

theorem AlikeThroughout.visitAlike {grammar : Grammar} {tree other : Json}
    (matching : AlikeThroughout Grammar.Interchangeable grammar tree other) : VisitAlike grammar tree other := by
  apply matching.induction
  rintro grammar node counterpart ⟨same, standing⟩ below rfl parent above
  rw [events_visit, events_visit, standing, opens_congr same.known same.entered]
  cases opened : opens counterpart with
  | false => rfl
  | true =>
    rw [same.under, under_of_opens opened] at below
    have children := Run.events_forM_congr (below.imp fun child other ⟨matching, visits⟩ =>
      ⟨visits rfl (some node) (some counterpart), by
        rw [← Grammar.verdict_markdown, ← Grammar.verdict_markdown]
        exact (matching.mono fun _ _ _ same => same.1).failAlike.verdict_ok_iff rfl⟩)
    simp only [if_true, children]

/-- Trees whose nodes are interchangeable in their places are visited alike and come out alike. -/
theorem AlikeThroughout.sameOutcome {tree other : Json}
    (matching : AlikeThroughout Grammar.Interchangeable .markdown tree other) (parent : Option Json) :
    (Entry.run ⟨.markdown, .node⟩ tree parent).trace = (Entry.run ⟨.markdown, .node⟩ other parent).trace ∧
      Entry.SameOutcome ⟨.markdown, .node⟩ tree other parent parent := by
  have fails := (matching.mono fun _ _ _ same => same.1).failAlike
  constructor
  · simp only [Entry.run, Markdown.tree, Run.trace_logged]
    simp only [Run.trace, matching.visitAlike rfl parent parent]
  · apply Entry.SameOutcome.of_failsAt
    intro path violation
    rw [Entry.failsAt_node_iff, Entry.failsAt_node_iff]
    exact fails parent parent rfl path violation

end MarkdownTree
