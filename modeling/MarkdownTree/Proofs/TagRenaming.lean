import MarkdownTree.Proofs.NodeLikeness

/-! Generic checks have no eye for tags. A tag may give way to any other that is not empty wherever no kind is looked
up: in all of a generic tree, and in a Markdown tree below extensions, and at them as long as they remain
extensions. -/

namespace MarkdownTree
open Json (Fields SameOrObjects SameOrArrays)

/-- Tags of which one may take the place of the other in a node that is checked by the grammar. -/
structure Grammar.MayRename (grammar : Grammar) (tag newTag : String) : Prop where
  nonempty : tag ≠ ""
  stillNonempty : newTag ≠ ""
  unknown : grammar = .markdown → Kind.ofTag? tag = none ∧ Kind.ofTag? newTag = none

/-- Fields of two nodes that are the same but for the tag. Children are only compared for being an array in both: which
nodes are in it is a matter of the places below. -/
structure Retagged (grammar : Grammar) (fields other : Fields) : Prop where
  tags : fields.get? "type" = other.get? "type" ∨ ∃ tag newTag, grammar.MayRename tag newTag ∧
    fields.get? "type" = some (.string tag) ∧ other.get? "type" = some (.string newTag)
  children : Option.Rel SameOrArrays (fields.get? "children") (other.get? "children")
  others : ∀ key, key ≠ "type" → key ≠ "children" → fields.get? key = other.get? key

def DifferInTag (grammar : Grammar) (node other : Json) : Prop :=
  SameOrObjects (Retagged grammar) node other

theorem Kind.type_not_mem_ownKeys (kind : Kind) : "type" ∉ kind.ownKeys := by
  cases kind <;> decide

namespace Retagged
variable {grammar : Grammar} {fields other : Fields}

theorem of_insert {tag newTag : String} (renames : grammar.MayRename tag newTag)
    (held : fields.get? "type" = some (.string tag)) :
    Retagged grammar fields (Fields.insert "type" (.string newTag) fields) where
  tags := .inr ⟨tag, newTag, renames, held, by simp [Fields.get?_insert]⟩
  children := by
    rw [Fields.get?_insert, if_neg (by decide)]
    cases fields.get? "children" with
    | none => exact .none
    | some value => exact .some (.same value)
  others key untyped _ := by rw [Fields.get?_insert, if_neg untyped]

variable (renamed : Retagged grammar fields other)
include renamed

theorem typeRules : Form.typeRules fields = Form.typeRules other := by
  obtain same | ⟨tag, newTag, renames, held, heldOther⟩ := renamed.tags
  · simp only [Form.typeRules, same]
  · simp [Form.typeRules, held, heldOther, renames.nonempty, renames.stillNonempty]

theorem kind? : grammar.kind? (.object fields) = grammar.kind? (.object other) := by
  obtain same | ⟨tag, newTag, renames, held, heldOther⟩ := renamed.tags
  · simp only [Grammar.kind?, Json.fields, same]
  · cases grammar with
    | generic => rfl
    | markdown =>
      obtain ⟨unknown, stillUnknown⟩ := renames.unknown rfl
      simp [Grammar.kind?, Json.fields, held, heldOther, unknown, stillUnknown]

theorem alikeOnEntry (kind : Option Kind) : fields.AlikeOnEntry kind other where
  typed := renamed.typeRules
  placed := by
    simp only [Position.rules, Fields.nonNull?_congr (renamed.others "position" (by decide) (by decide))]
  listed := Fields.nonNull?_rel SameOrArrays.null_iff id renamed.children
  valued _ := renamed.others "value" (by decide) (by decide)
  contained _ := by
    have related := renamed.children
    unfold Fields.contains
    generalize fields.get? "children" = value, other.get? "children" = counterpart at related ⊢
    cases related <;> rfl

theorem indistinct : grammar.Indistinct (.object fields) (.object other) where
  known := renamed.kind?
  entered := Grammar.onEntry_congr renamed.kind? (renamed.alikeOnEntry _)
  left parent := by
    simp only [Grammar.onExit, ← renamed.kind?]
    cases grammar.kind? (.object fields) with
    | none => rfl
    | some kind =>
      refine Markdown.ownRules_congr (fun key member => Fields.nonNull?_congr (renamed.others key ?_ ?_)) parent
      · rintro rfl
        exact kind.type_not_mem_ownKeys member
      · rintro rfl
        exact kind.children_not_mem_ownKeys member

end Retagged

namespace DifferInTag
variable {grammar : Grammar} {node other : Json}

theorem indistinct (differ : DifferInTag grammar node other) : grammar.Indistinct node other := by
  cases differ with
  | same => exact ⟨rfl, rfl, fun _ => rfl⟩
  | objects renamed => exact renamed.indistinct

theorem formCheck (differ : DifferInTag grammar node other) (form : Form) :
    (form.check node).map (fun _ => ()) = (form.check other).map fun _ => () := by
  cases differ with
  | same => rfl
  | @objects fields other renamed =>
    have rules : form.rules fields = form.rules other := (renamed.alikeOnEntry (some .root)).formRules fun _ => rfl
    rw [Form.check_object, Form.check_object, rules]
    cases form.rules other <;> rfl

end DifferInTag

theorem Entry.onEntry_generic (form : Form) (node : Json) :
    Entry.onEntry ⟨.generic, form⟩ node = (form.check node).map fun _ => () := by
  cases form <;> rfl

theorem Entry.under_generic (form : Form) (node : Json) : Entry.under ⟨.generic, form⟩ node = .generic := by
  cases form <;> rfl

theorem Entry.onExit_generic (form : Form) (node : Json) (parent : Option Json) :
    Entry.onExit ⟨.generic, form⟩ node parent = .ok () := by
  cases form <;> rfl

def VisitSamePlaces (grammar : Grammar) (tree other : Json) : Prop :=
  grammar = .markdown → (visits tree).map Prod.fst = (visits other).map Prod.fst

theorem Grammar.Indistinct.opens {node other : Json} (same : Grammar.Indistinct .markdown node other) :
    opens node = opens other :=
  opens_congr same.known same.entered

theorem map_fst_visitsBelow {children others : List Json}
    (pairs : List.Forall₂ (VisitSamePlaces .markdown) children others) (offset : Nat) :
    (visitsBelow offset children).map Prod.fst = (visitsBelow offset others).map Prod.fst := by
  have lifted (index : Nat) (visits : Visits) :
      (Visits.lift index visits).map Prod.fst = (visits.map Prod.fst).map (index :: ·) := by
    simp [Visits.lift, Function.comp_def]
  induction pairs generalizing offset with
  | nil => rfl
  | cons same pairs ih =>
    rw [visitsBelow_cons, visitsBelow_cons, List.map_append, List.map_append, lifted, lifted, same rfl, ih]

theorem AlikeThroughout.visitSamePlaces {grammar : Grammar} {tree other : Json}
    (matching : AlikeThroughout Grammar.Indistinct grammar tree other) : VisitSamePlaces grammar tree other := by
  apply matching.induction
  rintro grammar node counterpart same below rfl
  rw [visits_eq, visits_eq, same.opens]
  cases opened : opens counterpart with
  | false => rfl
  | true =>
    have under : Grammar.under .markdown node = .markdown := by rw [same.under, under_of_opens opened]
    rw [under] at below
    simp only [if_true, List.map_cons, map_fst_visitsBelow (below.imp fun _ _ pair => pair.2)]

/-- The nodes that the check of a Markdown tree visits, each with its path: all that are to be visited, or those up to
the failure. -/
inductive Dispatches (tree : Json) (parent : Option Json) : Visits → Prop
  | throughout (accepted : (Entry.run ⟨.markdown, .node⟩ tree parent).result = .ok ()) :
    Dispatches tree parent (visits tree)
  | upTo {path node violation} (refused : Entry.RefusedAt ⟨.markdown, .node⟩ tree parent path node violation) :
    Dispatches tree parent (visitsUpTo path (visits tree))

theorem Dispatches.trace {tree : Json} {parent : Option Json} {dispatched : Visits}
    (dispatches : Dispatches tree parent dispatched) :
    (Entry.run ⟨.markdown, .node⟩ tree parent).trace = dispatched.map visited := by
  have events : (Markdown.visit tree parent).events = dispatched.map visited := by
    cases dispatches with
    | throughout accepted =>
      have accepted : Grammar.verdict .markdown tree parent = .ok () := accepted
      exact events_visit_of_children (Grammar.accepted_children accepted) parent
    | upTo refused => exact events_visit_of_failsAt (Entry.failsAt_node_iff.1 refused.fails) rfl
  rw [Entry.run, Markdown.tree, Run.trace_logged, Run.trace, events]
  exact List.filter_eq_self.2 fun event member => by
    obtain ⟨visit, -, rfl⟩ := List.mem_map.1 member
    rfl

theorem map_fst_visitsUpTo (path : Json.ChildPath) (visits : Visits) :
    (visitsUpTo path visits).map Prod.fst = (visits.map Prod.fst).filter fun place => !isRightOf place path := by
  rw [visitsUpTo, List.filter_map]
  rfl

/-- Generic checks do not tell trees apart that differ in their tags. The check of a Markdown tree does not either, if
the tags are those of extensions before and after, or stand below an extension: it visits the same places, where it
reports the tags it finds, and accepts both trees or refuses both at the same place for the same reason. -/
theorem outcome_of_differInTag (tree other : Json) (parent : Option Json) :
    (AlikeThroughout DifferInTag .generic tree other →
      ∀ form, Entry.SameOutcome ⟨.generic, form⟩ tree other parent parent) ∧
    (AlikeThroughout DifferInTag .markdown tree other →
      Entry.SameOutcome ⟨.markdown, .node⟩ tree other parent parent ∧
      ∃ dispatched counterparts : Visits, Dispatches tree parent dispatched ∧ Dispatches other parent counterparts ∧
        dispatched.map Prod.fst = counterparts.map Prod.fst ∧
        (Entry.run ⟨.markdown, .node⟩ tree parent).trace = dispatched.map visited ∧
        (Entry.run ⟨.markdown, .node⟩ other parent).trace = counterparts.map visited) := by
  constructor
  · intro matching form
    have below : List.Forall₂ (FailAlike .generic) tree.children other.children := by
      refine List.forall₂_iff_get.2 ⟨matching.length_children, fun index inside insideOther => ?_⟩
      have child := matching.child (List.getElem?_eq_getElem inside) (List.getElem?_eq_getElem insideOther)
      exact (child.mono fun _ _ _ differ => differ.indistinct).failAlike
    apply Entry.SameOutcome.of_failsAt
    intro path violation
    apply Entry.failsAt_congr
    · rw [Entry.onEntry_generic, Entry.onEntry_generic, matching.here.formCheck]
    · rw [Entry.onExit_generic, Entry.onExit_generic]
    · rw [Entry.under_generic, Entry.under_generic]
    · rw [Entry.under_generic]
      exact below
  · intro matching
    have indistinct := matching.mono fun _ _ _ differ => differ.indistinct
    have outcome : Entry.SameOutcome ⟨.markdown, .node⟩ tree other parent parent := by
      apply Entry.SameOutcome.of_failsAt
      intro path violation
      rw [Entry.failsAt_node_iff, Entry.failsAt_node_iff]
      exact indistinct.failAlike parent parent rfl path violation
    have places := indistinct.visitSamePlaces rfl
    refine ⟨outcome, ?_⟩
    rcases outcome with ⟨accepted, acceptedOther⟩ | ⟨path, node, counterpart, violation, refused, refusedOther⟩
    · have visited := Dispatches.throughout accepted
      have visitedOther := Dispatches.throughout acceptedOther
      exact ⟨_, _, visited, visitedOther, places, visited.trace, visitedOther.trace⟩
    · have visited := Dispatches.upTo refused
      have visitedOther := Dispatches.upTo refusedOther
      refine ⟨_, _, visited, visitedOther, ?_, visited.trace, visitedOther.trace⟩
      rw [map_fst_visitsUpTo, map_fst_visitsUpTo, places]

/-- An aside may be renamed to what is a kind but for a capital, and the heading in it to a root. Both trees are refused
for the null that follows. -/
theorem outcome_of_differInTag_aside :
    let heading : Fields := [("type", .string "heading")]
    let root : Fields := Fields.insert "type" (.string "root") heading
    let aside : Fields := [("children", .array [.object heading, .null]), ("type", .string "aside")]
    let renamed : Fields := [("children", .array [.object root, .null]), ("type", .string "Heading")]
    let tree := Json.object aside
    let other := Json.object renamed
    (∀ grammar, AlikeThroughout DifferInTag grammar tree other) ∧
      ∀ entry ∈ [Entry.mk .generic .parent, Entry.mk .markdown .node],
        (entry.run tree none).result = .error (Violation.notObject.reportedAt .null (some tree)) ∧
          ∃ path node counterpart violation, entry.RefusedAt tree none path node violation ∧
            entry.RefusedAt other none path counterpart violation := by
  intro heading root aside renamed tree other
  have asides (grammar : Grammar) : Retagged grammar aside renamed := by
    refine ⟨.inr ⟨"aside", "Heading", ⟨by decide, by decide, fun _ => by decide⟩, rfl, rfl⟩, .some (.arrays _ _), ?_⟩
    intro key untyped unlisted
    simp [aside, renamed, Fields.get?_cons, untyped, unlisted]
  have headings : AlikeThroughout DifferInTag .generic (.object heading) (.object root) :=
    .of_children (.objects (.of_insert ⟨by decide, by decide, by simp⟩ rfl)) .nil
  have same : AlikeThroughout DifferInTag .generic .null .null := .of_children (.same .null) .nil
  have alike (grammar : Grammar) : AlikeThroughout DifferInTag grammar tree other := by
    refine .of_children (.objects (asides grammar)) ?_
    cases grammar <;> exact .cons headings (.cons same .nil)
  have outcome := outcome_of_differInTag tree other none
  refine ⟨alike, ?_⟩
  simp only [List.forall_mem_cons, List.not_mem_nil, false_imp_iff, implies_true, and_true]
  have refused : (Entry.run ⟨.generic, .parent⟩ tree none).result =
      .error (Violation.notObject.reportedAt .null (some tree)) := rfl
  have refusedMarkdown : (Entry.run ⟨.markdown, .node⟩ tree none).result =
      .error (Violation.notObject.reportedAt .null (some tree)) := rfl
  exact ⟨⟨refused, (outcome.1 (alike .generic) .parent).refused refused⟩,
    refusedMarkdown, (outcome.2 (alike .markdown)).1.refused refusedMarkdown⟩

end MarkdownTree
