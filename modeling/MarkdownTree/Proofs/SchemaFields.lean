import MarkdownTree.Proofs.NodeLikeness

/-! A check has no eye for fields outside of the schema. What they hold, and whether they are there, makes no
difference to it. -/

namespace MarkdownTree
open Json (Fields SameOrObjects SameOrArrays)

/-- The keys that count in a node, apart from its position and its children. Without a kind it is the type alone. -/
def relevantKeys : Option Kind → List String
  | none => ["type"]
  | some kind => "type" :: "value" :: kind.ownKeys

def PointsAgree (point other : Fields) : Prop :=
  ∀ axis : Axis, point.get? axis.key = other.get? axis.key

def PositionsAgree (position other : Fields) : Prop :=
  ∀ boundary : Boundary, Option.Rel (SameOrObjects PointsAgree) (position.get? boundary.key) (other.get? boundary.key)

/-- Fields of two nodes that agree where it counts. Children are only compared for being an array in both: which
nodes are in it is a matter of the places below. -/
structure AgreeWhereRelevant (kind : Option Kind) (fields other : Fields) : Prop where
  keys : ∀ key ∈ relevantKeys kind, fields.get? key = other.get? key
  position : Option.Rel (SameOrObjects PositionsAgree) (fields.get? "position") (other.get? "position")
  children : Option.Rel SameOrArrays (fields.get? "children") (other.get? "children")

def AgreeOnSchema (grammar : Grammar) (node other : Json) : Prop :=
  SameOrObjects (AgreeWhereRelevant (grammar.kind? node)) node other

theorem PointsAgree.alike {point other : Fields} (agree : PointsAgree point other) :
    Position.PointsAlike point other :=
  fun axis => Fields.nonNull?_congr (agree axis)

theorem PositionsAgree.alike {position other : Fields} (agree : PositionsAgree position other) :
    Position.PositionsAlike position other :=
  fun boundary => Fields.nonNull?_rel SameOrObjects.null_iff (SameOrObjects.imp PointsAgree.alike) (agree boundary)

theorem AgreeWhereRelevant.readAlike {kind : Option Kind} {fields other : Fields}
    (agree : AgreeWhereRelevant kind fields other) : ReadAlike kind fields other where
  typed := agree.keys "type" (by cases kind <;> simp [relevantKeys])
  placed := Fields.nonNull?_rel SameOrObjects.null_iff (SameOrObjects.imp PositionsAgree.alike) agree.position
  listed := Fields.nonNull?_rel SameOrArrays.null_iff id agree.children
  valued known := by
    obtain ⟨kind, rfl⟩ := Option.isSome_iff_exists.1 known
    exact agree.keys "value" (by simp [relevantKeys])
  contained known := by
    have related := agree.children
    unfold Json.Fields.contains
    generalize fields.get? "children" = value, other.get? "children" = counterpart at related ⊢
    cases related <;> rfl
  own kind known key member := by
    subst known
    exact Fields.nonNull?_congr (agree.keys key (by simp [relevantKeys, member]))

/-- Two trees that agree where it counts are visited alike, and both are accepted or both are refused at the same place
for the same reason. -/
theorem outcome_of_agreeOnSchema {tree other : Json} (agree : AlikeThroughout AgreeOnSchema .markdown tree other)
    (parent : Option Json) :
    (Entry.run ⟨.markdown, .node⟩ tree parent).trace = (Entry.run ⟨.markdown, .node⟩ other parent).trace ∧
      Entry.SameOutcome ⟨.markdown, .node⟩ tree other parent parent :=
  AlikeThroughout.sameOutcome_of_readAlike agree AgreeWhereRelevant.readAlike parent

/-- A heading without a depth is refused below the root also if it has a rank instead, its position has an indent, and
the root has the alignment of a table. -/
theorem outcome_of_agreeOnSchema_heading :
    let check : Entry := ⟨.markdown, .node⟩
    let heading := Json.object [("children", .array []), ("position", .object []), ("type", .string "heading")]
    let ranked := Json.object [("children", .array []), ("position", .object [("indent", .array [])]),
      ("rank", .string "first"), ("type", .string "heading")]
    let tree := Json.object [("children", .array [heading]), ("type", .string "root")]
    let other := Json.object [("align", .bool true), ("children", .array [ranked]), ("type", .string "root")]
    AlikeThroughout AgreeOnSchema .markdown tree other ∧
      (check.run tree none).result = .error (Violation.depthNotNumber.reportedAt heading (some tree)) ∧
      ∃ path node counterpart violation, check.RefusedAt tree none path node violation ∧
        check.RefusedAt other none path counterpart violation := by
  intro check heading ranked tree other
  have positions : PositionsAgree [] [("indent", .array [])] := by
    intro boundary
    cases boundary <;> exact .none
  have headings : AgreeWhereRelevant (some .heading) heading.fields ranked.fields :=
    ⟨by simp [relevantKeys, Kind.ownKeys, heading, ranked, Json.fields, Fields.get?_cons],
      .some (.objects positions), .some (.same _)⟩
  have roots : AgreeWhereRelevant (some .root) tree.fields other.fields :=
    ⟨by simp [relevantKeys, Kind.ownKeys, tree, other, Json.fields, Fields.get?_cons], .none, .some (.arrays _ _)⟩
  have agree : AlikeThroughout AgreeOnSchema .markdown tree other :=
    .of_children (.objects roots) (.cons (.of_children (.objects headings) .nil) .nil)
  have refused : (check.run tree none).result =
      .error (Violation.depthNotNumber.reportedAt heading (some tree)) := rfl
  exact ⟨agree, refused, (outcome_of_agreeOnSchema agree none).2.refused refused⟩

end MarkdownTree
