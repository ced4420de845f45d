import MarkdownTree.Proofs.TreeLikeness

/-! What the checks of a single node make of its fields. Null stands for a missing field, but not for the type and not
for the value and the children of a node of a kind. Of a position only the two points are looked at, and of a point
only the coordinates. -/

namespace MarkdownTree
open Json (Fields)

namespace Json

inductive SameOrObjects (agree : Fields → Fields → Prop) : Json → Json → Prop
  | same (value : Json) : SameOrObjects agree value value
  | objects {fields other : Fields} (agreement : agree fields other) :
    SameOrObjects agree (.object fields) (.object other)

theorem SameOrObjects.null_iff {agree : Fields → Fields → Prop} {value other : Json}
    (alike : SameOrObjects agree value other) : value = .null ↔ other = .null := by
  cases alike with
  | same => rfl
  | objects => simp

theorem SameOrObjects.imp {agree weaker : Fields → Fields → Prop} {value other : Json}
    (implies : ∀ {fields counterpart}, agree fields counterpart → weaker fields counterpart)
    (alike : SameOrObjects agree value other) : SameOrObjects weaker value other := by
  cases alike with
  | same => exact .same value
  | objects agreement => exact .objects (implies agreement)

theorem Fields.nonNull?_rel {alike weaker : Json → Json → Prop} {fields other : Fields} {key : String}
    (nulls : ∀ {value counterpart}, alike value counterpart → (value = .null ↔ counterpart = .null))
    (implies : ∀ {value counterpart}, alike value counterpart → weaker value counterpart)
    (related : Option.Rel alike (fields.get? key) (other.get? key)) :
    Option.Rel weaker (fields.nonNull? key) (other.nonNull? key) := by
  cases held : fields.get? key with
  | none =>
    cases heldOther : other.get? key with
    | none =>
      rw [nonNull?_eq_none_iff.2 (.inl held), nonNull?_eq_none_iff.2 (.inl heldOther)]
      exact .none
    | some counterpart =>
      rw [held, heldOther] at related
      cases related
  | some value =>
    cases heldOther : other.get? key with
    | none =>
      rw [held, heldOther] at related
      cases related
    | some counterpart =>
      rw [held, heldOther, Option.rel_some_some] at related
      by_cases null : value = .null
      · have nullOther := (nulls related).1 null
        rw [nonNull?_eq_none_iff.2 (.inr (null ▸ held)), nonNull?_eq_none_iff.2 (.inr (nullOther ▸ heldOther))]
        exact .none
      · have presentOther := mt (nulls related).2 null
        rw [nonNull?_eq_some_iff.2 ⟨held, null⟩, nonNull?_eq_some_iff.2 ⟨heldOther, presentOther⟩]
        exact .some (implies related)

end Json

namespace Position
open Json (SameOrObjects)

def PointsAlike (point other : Fields) : Prop :=
  ∀ axis : Axis, point.nonNull? axis.key = other.nonNull? axis.key

def PositionsAlike (position other : Fields) : Prop :=
  ∀ boundary : Boundary,
    Option.Rel (SameOrObjects PointsAlike) (position.nonNull? boundary.key) (other.nonNull? boundary.key)

theorem PointsAlike.coordinateRule {point other : Fields} (alike : PointsAlike point other) (boundary : Boundary)
    (axis : Axis) : coordinateRule boundary axis point = coordinateRule boundary axis other := by
  simp only [Position.coordinateRule, alike axis]

theorem PositionsAlike.pointRules {position other : Fields} (alike : PositionsAlike position other)
    (boundary : Boundary) : pointRules boundary position = pointRules boundary other := by
  have related := alike boundary
  unfold Position.pointRules
  generalize position.nonNull? boundary.key = point, other.nonNull? boundary.key = counterpart at related ⊢
  cases related with
  | none => rfl
  | some same =>
    cases same with
    | same => rfl
    | objects points => simp only [points.coordinateRule]

theorem rules_congr {fields other : Fields}
    (related : Option.Rel (SameOrObjects PositionsAlike) (fields.nonNull? "position") (other.nonNull? "position")) :
    rules fields = rules other := by
  unfold rules
  generalize fields.nonNull? "position" = position, other.nonNull? "position" = counterpart at related ⊢
  cases related with
  | none => rfl
  | some same =>
    cases same with
    | same => rfl
    | objects positions => simp only [positions.pointRules]

end Position

/-- Fields that the checks of a node read alike, by the kind that the node is checked for, if any. -/
structure ReadAlike (kind : Option Kind) (fields other : Fields) : Prop where
  typed : fields.get? "type" = other.get? "type"
  placed : Option.Rel (Json.SameOrObjects Position.PositionsAlike) (fields.nonNull? "position")
    (other.nonNull? "position")
  listed : Option.Rel Json.SameOrArrays (fields.nonNull? "children") (other.nonNull? "children")
  valued : kind.isSome → fields.get? "value" = other.get? "value"
  contained : kind.isSome → fields.contains "children" = other.contains "children"
  own : ∀ known, kind = some known → ∀ key ∈ known.ownKeys, fields.nonNull? key = other.nonNull? key

theorem ReadAlike.alikeOnEntry {kind : Option Kind} {fields other : Fields} (alike : ReadAlike kind fields other) :
    fields.AlikeOnEntry kind other where
  typed := by simp only [Form.typeRules, alike.typed]
  placed := Position.rules_congr alike.placed
  listed := alike.listed
  valued := alike.valued
  contained := alike.contained

theorem Grammar.interchangeable_of_readAlike {grammar : Grammar} {node other : Json}
    (alike : Json.SameOrObjects (ReadAlike (grammar.kind? node)) node other) : grammar.Interchangeable node other := by
  cases alike with
  | same => exact ⟨⟨rfl, rfl, fun _ => rfl⟩, rfl⟩
  | @objects fields other alike =>
    have standing : Standing.of (.object fields) = Standing.of (.object other) := by
      simp only [Standing.of, Json.fields, alike.typed]
    have known : grammar.kind? (.object fields) = grammar.kind? (.object other) := by
      simp only [Grammar.kind?, Json.fields, alike.typed]
    refine ⟨⟨known, Grammar.onEntry_congr known alike.alikeOnEntry, ?_⟩, standing⟩
    intro parent
    simp only [Grammar.onExit, ← known]
    cases held : grammar.kind? (.object fields) with
    | none => rfl
    | some kind => exact Markdown.ownRules_congr (alike.own kind held) parent

/-- Trees that are related node by node are visited alike and come out alike, if related fields are read alike. -/
theorem AlikeThroughout.sameOutcome_of_readAlike {related : Option Kind → Fields → Fields → Prop} {tree other : Json}
    (matching : AlikeThroughout (fun grammar node => Json.SameOrObjects (related (grammar.kind? node)) node)
      .markdown tree other)
    (reads : ∀ {kind fields counterpart}, related kind fields counterpart → ReadAlike kind fields counterpart)
    (parent : Option Json) :
    (Entry.run ⟨.markdown, .node⟩ tree parent).trace = (Entry.run ⟨.markdown, .node⟩ other parent).trace ∧
      Entry.SameOutcome ⟨.markdown, .node⟩ tree other parent parent := by
  apply AlikeThroughout.sameOutcome
  apply matching.mono
  intro grammar node counterpart same
  exact Grammar.interchangeable_of_readAlike (same.imp reads)

end MarkdownTree
