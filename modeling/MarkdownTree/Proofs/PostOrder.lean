import Mathlib.Data.Finset.Card
import MarkdownTree.Proofs.VisitEvents

/-! The places of a tree in the order in which a check leaves them: a place comes after all that is below it and after
all that is to the left. What is later than a place stays where it is when something else is put in that place. -/

namespace MarkdownTree.Json

def childPaths : Json → List ChildPath :=
  childFold fun _ below => [] :: below.zipIdx.flatMap fun child => child.1.map (child.2 :: ·)

theorem childPaths_eq (node : Json) : node.childPaths =
    [] :: node.children.zipIdx.flatMap fun child => child.1.childPaths.map (child.2 :: ·) := by
  rw [childPaths, childFold_eq, List.zipIdx_map, List.flatMap_map]
  rfl

theorem mem_childPaths_iff {tree : Json} {path : ChildPath} :
    path ∈ tree.childPaths ↔ ∃ node, tree.childAt? path = some node := by
  induction path generalizing tree with
  | nil =>
    rw [childPaths_eq]
    simp
  | cons index path ih =>
    have below : (index :: path) ∈ tree.childPaths ↔
        ∃ child, tree.children[index]? = some child ∧ path ∈ child.childPaths := by
      rw [childPaths_eq]
      simp [List.mem_zipIdx_iff_getElem?]
    rw [below]
    constructor
    · rintro ⟨child, found, member⟩
      obtain ⟨node, reached⟩ := ih.1 member
      exact ⟨node, by rwa [childAt?_cons found]⟩
    · rintro ⟨node, reached⟩
      obtain ⟨child, found, inside⟩ := exists_child_of_childAt?_cons reached
      exact ⟨child, found, ih.2 ⟨node, inside⟩⟩

/-- The places of a tree, of which it has as many as it has nodes. -/
def places (tree : Json) : Finset ChildPath :=
  tree.childPaths.toFinset

theorem mem_places_iff {tree : Json} {path : ChildPath} :
    path ∈ tree.places ↔ ∃ node, tree.childAt? path = some node := by
  rw [places, List.mem_toFinset, mem_childPaths_iff]

/-- Whether a place comes after another in post-order. -/
def ChildPath.isLater : ChildPath → ChildPath → Bool
  | [], _ :: _ => true
  | later :: other, index :: path => index < later || index = later && isLater other path
  | _, [] => false

namespace ChildPath

theorem isLater_iff {other path : ChildPath} : isLater other path = true ↔
    (other <+: path ∧ other ≠ path) ∨ isRightOf other path = true := by
  fun_induction isLater other path with
  | case1 => simp [isRightOf]
  | case2 later other index path ih =>
    by_cases same : index = later
    · simp [isRightOf, ih, same]
    · have different : later ≠ index := Ne.symm same
      simp [isRightOf, same, different]
  | case3 => simp [isRightOf]

-- A node is left after what is below it and after what is to its left.
example : isLater [1] [1, 4] = true ∧ isLater [1] [0, 4] = true ∧ isLater [1, 4] [1] = false := by decide

theorem isLater_self (path : ChildPath) : isLater path path = false := by
  induction path with
  | nil => rfl
  | cons index path ih => simp [isLater, ih]

theorem isLater_trans {first second third : ChildPath} (later : isLater first second = true)
    (afterwards : isLater second third = true) : isLater first third = true := by
  induction first generalizing second third with
  | nil =>
    cases third with
    | nil => cases second <;> cases afterwards
    | cons => rfl
  | cons index first ih =>
    cases second with
    | nil => cases later
    | cons middle second =>
      cases third with
      | nil => cases afterwards
      | cons earliest third =>
        simp only [isLater, Bool.or_eq_true, Bool.and_eq_true, decide_eq_true_eq] at later afterwards ⊢
        rcases later with less | ⟨rfl, inner⟩ <;> rcases afterwards with lower | ⟨rfl, deeper⟩
        · exact .inl (Nat.lt_trans lower less)
        · exact .inl less
        · exact .inl lower
        · exact .inr ⟨rfl, ih inner deeper⟩

theorem not_prefix_of_isLater {later path : ChildPath} (after : isLater later path = true) : ¬ path <+: later := by
  intro before
  by_cases same : path = later
  · subst same
    simp [isLater_self] at after
  · have reverse := isLater_trans (isLater_iff.2 (.inl ⟨before, same⟩)) after
    simp [isLater_self] at reverse

theorem isRightOf_eq_false_of_isLater {later path : ChildPath} (after : isLater later path = true) :
    isRightOf path later = false := by
  cases right : isRightOf path later with
  | false => rfl
  | true =>
    have reverse := isLater_trans (isLater_iff.2 (.inr right)) after
    simp [isLater_self] at reverse

end ChildPath

theorem mem_places_replaceAt_iff {tree node : Json} {path later : ChildPath}
    (reached : tree.childAt? path = some node) (after : later.isLater path = true) (value : Json) :
    later ∈ (tree.replaceAt path value).places ↔ later ∈ tree.places := by
  simp only [mem_places_iff]
  induction path generalizing tree later with
  | nil => cases later <;> cases after
  | cons index path ih =>
    obtain ⟨child, found, inside⟩ := exists_child_of_childAt?_cons reached
    cases later with
    | nil => simp
    | cons position rest =>
      simp only [ChildPath.isLater, Bool.or_eq_true, Bool.and_eq_true, decide_eq_true_eq] at after
      rcases after with less | ⟨rfl, inner⟩
      · have same : (tree.replaceAt (index :: path) value).children[position]? = tree.children[position]? := by
          rw [replaceAt_cons found, children_withChildren (HoldsChildren.of_getElem? found),
            List.getElem?_set_ne (Nat.ne_of_lt less)]
        simp only [childAt?, same]
      · simp only [childAt?_cons (getElem?_children_replaceAt found path value), childAt?_cons found]
        exact ih inside inner

def placesAfter (tree : Json) (path : ChildPath) : Finset ChildPath :=
  tree.places.filter fun later => later.isLater path = true

theorem mem_placesAfter_iff {tree : Json} {path later : ChildPath} :
    later ∈ tree.placesAfter path ↔ later ∈ tree.places ∧ later.isLater path = true :=
  Finset.mem_filter

theorem placesAfter_replaceAt {tree node : Json} {path : ChildPath} (reached : tree.childAt? path = some node)
    (value : Json) : (tree.replaceAt path value).placesAfter path = tree.placesAfter path := by
  ext later
  simp only [mem_placesAfter_iff]
  exact and_congr_left fun after => mem_places_replaceAt_iff reached after value

theorem card_placesAfter_lt {tree node : Json} {path later : ChildPath} (reached : tree.childAt? later = some node)
    (after : later.isLater path = true) : (tree.placesAfter later).card < (tree.placesAfter path).card := by
  apply Finset.card_lt_card
  refine Finset.ssubset_iff_of_subset ?_ |>.2 ⟨later, ?_, ?_⟩
  · intro place member
    obtain ⟨inside, afterwards⟩ := mem_placesAfter_iff.1 member
    exact mem_placesAfter_iff.2 ⟨inside, ChildPath.isLater_trans afterwards after⟩
  · exact mem_placesAfter_iff.2 ⟨mem_places_iff.2 ⟨node, reached⟩, after⟩
  · simp [mem_placesAfter_iff, ChildPath.isLater_self]

theorem card_placesAfter_lt_card_places {tree node : Json} {path : ChildPath}
    (reached : tree.childAt? path = some node) : (tree.placesAfter path).card < tree.places.card := by
  apply Finset.card_lt_card
  refine Finset.filter_ssubset.2 ⟨path, mem_places_iff.2 ⟨node, reached⟩, ?_⟩
  simp [ChildPath.isLater_self]

end MarkdownTree.Json
