import MarkdownTree.Proofs.NodeLikeness

/-! Null fields can be left out. The exceptions are the type, and the value and the children of a node of a kind: there
a null field is still a field. -/

namespace MarkdownTree
open Json (Fields SameOrObjects SameOrArrays)

/-- A field is held in both, with related values, or it was null and is gone. -/
inductive Json.Fields.KeptUnlessNull (related : Json → Json → Prop) (fields other : Fields) (key : String) : Prop
  | kept (same : Option.Rel related (fields.get? key) (other.get? key))
  | dropped (null : fields.get? key = some .null) (gone : other.get? key = none)

def PointLosesNulls (point other : Fields) : Prop :=
  ∀ key, point.KeptUnlessNull Eq other key

structure PositionLosesNulls (position other : Fields) : Prop where
  points : ∀ boundary : Boundary,
    position.KeptUnlessNull (SameOrObjects PointLosesNulls) other boundary.key
  others : ∀ key, (∀ boundary : Boundary, key ≠ boundary.key) → position.KeptUnlessNull Eq other key

/-- Some null fields of a node, of its position and of the points there are left out. If the node has a kind, its value
and its children stay even if they are null. -/
structure NodeLosesNulls (kind : Option Kind) (fields other : Fields) : Prop where
  typed : fields.get? "type" = other.get? "type"
  valued : kind.isSome → fields.get? "value" = other.get? "value"
  contained : kind.isSome → fields.contains "children" = other.contains "children"
  position : fields.KeptUnlessNull (SameOrObjects PositionLosesNulls) other "position"
  children : fields.KeptUnlessNull SameOrArrays other "children"
  others : ∀ key, key ≠ "position" → key ≠ "children" → fields.KeptUnlessNull Eq other key

def LosesNulls (grammar : Grammar) (node other : Json) : Prop :=
  SameOrObjects (NodeLosesNulls (grammar.kind? node)) node other

namespace Json.Fields.KeptUnlessNull
variable {related weaker : Json → Json → Prop} {fields other : Fields} {key : String}

theorem nonNull?_rel (kept : fields.KeptUnlessNull related other key)
    (nulls : ∀ {value counterpart}, related value counterpart → (value = .null ↔ counterpart = .null))
    (implies : ∀ {value counterpart}, related value counterpart → weaker value counterpart) :
    Option.Rel weaker (fields.nonNull? key) (other.nonNull? key) := by
  cases kept with
  | kept same => exact Fields.nonNull?_rel nulls implies same
  | dropped null gone =>
    rw [nonNull?_eq_none_iff.2 (.inr null), nonNull?_eq_none_iff.2 (.inl gone)]
    exact .none

theorem nonNull?_eq (kept : fields.KeptUnlessNull Eq other key) : fields.nonNull? key = other.nonNull? key := by
  have related := kept.nonNull?_rel (fun same => by rw [same]) id
  generalize fields.nonNull? key = value, other.nonNull? key = counterpart at related ⊢
  cases related with
  | none => rfl
  | some same => rw [same]

theorem of_erase {removed : String} (refl : ∀ value, related value value)
    (null : fields.get? removed = some .null) (key : String) :
    fields.KeptUnlessNull related (Fields.erase removed fields) key := by
  by_cases same : key = removed
  · subst same
    exact .dropped null (by simp [get?_erase])
  · refine .kept ?_
    rw [get?_erase, if_neg same]
    cases fields.get? key with
    | none => exact .none
    | some value => exact .some (refl value)

end Json.Fields.KeptUnlessNull

theorem PointLosesNulls.alike {point other : Fields} (loses : PointLosesNulls point other) :
    Position.PointsAlike point other :=
  fun axis => (loses axis.key).nonNull?_eq

theorem PositionLosesNulls.alike {position other : Fields} (loses : PositionLosesNulls position other) :
    Position.PositionsAlike position other :=
  fun boundary => (loses.points boundary).nonNull?_rel SameOrObjects.null_iff (SameOrObjects.imp PointLosesNulls.alike)

theorem NodeLosesNulls.readAlike {kind : Option Kind} {fields other : Fields}
    (loses : NodeLosesNulls kind fields other) : ReadAlike kind fields other where
  typed := loses.typed
  placed := loses.position.nonNull?_rel SameOrObjects.null_iff (SameOrObjects.imp PositionLosesNulls.alike)
  listed := loses.children.nonNull?_rel SameOrArrays.null_iff id
  valued := loses.valued
  contained := loses.contained
  own known _ key member :=
    (loses.others key (fun same => known.position_not_mem_ownKeys (same ▸ member))
      fun same => known.children_not_mem_ownKeys (same ▸ member)).nonNull?_eq

theorem NodeLosesNulls.erase {kind : Option Kind} {fields : Fields} {removed : String}
    (null : fields.get? removed = some .null) (untyped : removed ≠ "type")
    (free : kind.isSome → removed ≠ "value" ∧ removed ≠ "children") :
    NodeLosesNulls kind fields (Fields.erase removed fields) where
  typed := by rw [Fields.get?_erase, if_neg untyped.symm]
  valued known := by rw [Fields.get?_erase, if_neg (free known).1.symm]
  contained known := by simp only [Fields.contains, Fields.get?_erase, if_neg (free known).2.symm]
  position := .of_erase SameOrObjects.same null "position"
  children := .of_erase SameOrArrays.same null "children"
  others key _ _ := .of_erase (fun _ => rfl) null key

/-- Without some of its null fields a tree is visited alike, and it is accepted as before or refused at the same place
for the same reason. -/
theorem outcome_of_losesNulls {tree other : Json} (loses : AlikeThroughout LosesNulls .markdown tree other)
    (parent : Option Json) :
    (Entry.run ⟨.markdown, .node⟩ tree parent).trace = (Entry.run ⟨.markdown, .node⟩ other parent).trace ∧
      Entry.SameOutcome ⟨.markdown, .node⟩ tree other parent parent :=
  AlikeThroughout.sameOutcome_of_readAlike loses NodeLosesNulls.readAlike parent

/-- A heading with null for its depth is refused below the root also if it has no depth, the root has no position
instead of null, and the node before it no children instead of null. -/
theorem outcome_of_losesNulls_heading :
    let check : Entry := ⟨.markdown, .node⟩
    let aside : Fields := [("children", .null), ("type", .string "aside")]
    let heading : Fields := [("children", .array []), ("depth", .null), ("type", .string "heading")]
    let tree := Json.object [("children", .array [.object aside, .object heading]), ("position", .null),
      ("type", .string "root")]
    let other := Json.object [("children", .array [.object (Fields.erase "children" aside),
      .object (Fields.erase "depth" heading)]), ("type", .string "root")]
    AlikeThroughout LosesNulls .markdown tree other ∧
      (check.run tree none).result = .error (Violation.depthNotNumber.reportedAt (.object heading) (some tree)) ∧
      ∃ path node counterpart violation, check.RefusedAt tree none path node violation ∧
        check.RefusedAt other none path counterpart violation := by
  intro check aside heading tree other
  have asides : NodeLosesNulls none aside (Fields.erase "children" aside) :=
    .erase rfl (by decide) (by simp)
  have headings : NodeLosesNulls (some .heading) heading (Fields.erase "depth" heading) :=
    .erase rfl (by decide) (by simp)
  have roots : NodeLosesNulls (some .root) tree.fields other.fields := by
    refine ⟨rfl, fun _ => rfl, fun _ => rfl, .dropped rfl rfl, .kept (.some (.arrays _ _)), ?_⟩
    intro key unplaced unlisted
    refine .kept ?_
    by_cases typed : key = "type" <;>
      simp [tree, other, Json.fields, Fields.get?_cons, unplaced, unlisted, typed]
  have agree : AlikeThroughout LosesNulls .markdown tree other :=
    .of_children (.objects roots) (.cons (.of_children (.objects asides) .nil)
      (.cons (.of_children (.objects headings) .nil) .nil))
  have refused : (check.run tree none).result =
      .error (Violation.depthNotNumber.reportedAt (.object heading) (some tree)) := rfl
  exact ⟨agree, refused, (outcome_of_losesNulls agree none).2.refused refused⟩

end MarkdownTree
