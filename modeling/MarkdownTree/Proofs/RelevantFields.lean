import MarkdownTree.Proofs.Descent
import MarkdownTree.Proofs.KindTable
import MarkdownTree.Proofs.ShapeTable

/-! Which fields of a node its checks read. Nodes that agree in these fields get the same answer, whatever else they
hold and whatever their children are. The fields of a kind are read up to null. -/

namespace MarkdownTree
open Json (Fields)

/-- The fields that belong to a kind, apart from the value of a literal. -/
def Kind.ownKeys : Kind → List String
  | .list => ["spread", "ordered", "start"]
  | .listItem => ["spread", "checked"]
  | .heading => ["depth"]
  | .code => ["lang", "meta"]
  | .footnoteDefinition | .footnoteReference => ["identifier", "label"]
  | .definition => ["identifier", "url", "label", "title"]
  | .link => ["url", "title"]
  | .image => ["url", "title", "alt"]
  | .linkReference => ["identifier", "label", "referenceType"]
  | .imageReference => ["identifier", "label", "alt", "referenceType"]
  | .table => ["align"]
  | .root | .paragraph | .thematicBreak | .blockquote | .html | .yaml | .toml | .tableRow | .tableCell | .text
  | .emphasis | .strong | .delete | .inlineCode | .lineBreak | .footnote => []

namespace Json.Fields
variable {fields other : Fields} {key : String} {value : Json}

theorem nonNull?_congr (same : fields.get? key = other.get? key) : fields.nonNull? key = other.nonNull? key := by
  simp only [nonNull?, same]

theorem nonNull?_eq_none_iff :
    fields.nonNull? key = none ↔ fields.get? key = none ∨ fields.get? key = some .null := by
  unfold nonNull?
  split <;> simp_all

theorem nonNull?_eq_some_iff : fields.nonNull? key = some value ↔ fields.get? key = some value ∧ value ≠ .null := by
  unfold nonNull?
  split
  next null =>
    rw [null]
    constructor
    · intro impossible
      cases impossible
    · rintro ⟨same, nonNull⟩
      exact absurd (Option.some.inj same).symm nonNull
  next nonNull =>
    constructor
    · intro held
      exact ⟨held, fun null => nonNull (null ▸ held)⟩
    · rintro ⟨held, -⟩
      exact held

end Json.Fields

/-- The rules of a kind read the fields of that kind and no others, and null counts as absent there. -/
theorem Markdown.ownRules_congr {kind : Kind} {fields other : Fields}
    (same : ∀ key ∈ kind.ownKeys, fields.nonNull? key = other.nonNull? key) (parent : Option Json) :
    ownRules kind fields parent = ownRules kind other parent := by
  rw [ownRules_eq_judge, ownRules_eq_judge]
  apply Rule.judge_congr
  cases kind <;>
    simp_all [Kind.ownKeys, Kind.ruleTable, Field.tableKey, Fields.holds_eq, Fields.isAbsent_eq, Rule.rootWithParent,
      Rule.optionalBoolean, Rule.optionalString, Rule.requiredString, Rule.startTable, Rule.depthTable,
      Rule.infoWithoutLang, Rule.footnoteIdentifier, Rule.referenceType, Rule.alignTable]

def Category.rules : Category → Fields → Except Violation Unit
  | .parent, fields => Form.parent.rules fields
  | .literal, fields => do
    Form.literal.rules fields
    match fields.get? "value" with
    | some (.string _) => return
    | _ => throw .literalValueNotString
  | .void, fields => Form.void.rules fields

theorem Markdown.categoryCheck_object (category : Category) (fields : Fields) :
    categoryCheck category (.object fields) = (category.rules fields).map fun _ => fields := by
  cases category with
  | parent | void => exact Form.check_object ..
  | literal =>
    rw [categoryCheck, literalCheck, Form.check_object, Category.rules]
    cases Form.literal.rules fields with
    | error => rfl
    | ok =>
      simp only [bind, Except.bind, Except.map]
      split <;> simp_all [pure, Except.pure, throw, throwThe, MonadExceptOf.throw]

theorem Grammar.onEntry_object (grammar : Grammar) (fields : Fields) :
    grammar.onEntry (.object fields) =
      match grammar.kind? (.object fields) with
      | some kind => kind.category.rules fields
      | none => Form.node.rules fields := by
  unfold onEntry
  cases grammar.kind? (.object fields) with
  | some kind =>
    simp only [Markdown.categoryCheck_object]
    cases kind.category.rules fields <;> rfl
  | none =>
    simp only [Form.check_object]
    cases Form.node.rules fields <;> rfl

inductive Json.SameOrArrays : Json → Json → Prop
  | same (value : Json) : SameOrArrays value value
  | arrays (items others : List Json) : SameOrArrays (.array items) (.array others)

theorem Json.SameOrArrays.null_iff {value other : Json} (alike : SameOrArrays value other) :
    value = .null ↔ other = .null := by
  cases alike with
  | same => rfl
  | arrays => simp

/-- Fields that the checks before the children do not tell apart. Of children they only see whether they are an
array, and of null for children nothing, unless the node has a kind. -/
structure Json.Fields.AlikeOnEntry (kind : Option Kind) (fields other : Fields) : Prop where
  typed : Form.typeRules fields = Form.typeRules other
  placed : Position.rules fields = Position.rules other
  listed : Option.Rel SameOrArrays (fields.nonNull? "children") (other.nonNull? "children")
  valued : kind.isSome → fields.get? "value" = other.get? "value"
  contained : kind.isSome → fields.contains "children" = other.contains "children"

namespace Json.Fields.AlikeOnEntry
variable {kind : Option Kind} {fields other : Fields} (alike : AlikeOnEntry kind fields other)
include alike

theorem childrenRule : Form.childrenRule fields = Form.childrenRule other := by
  have listed := alike.listed
  unfold Form.childrenRule
  generalize fields.nonNull? "children" = value, other.nonNull? "children" = counterpart at listed ⊢
  cases listed with
  | none => rfl
  | some same => cases same <;> rfl

theorem isNone_children : (fields.nonNull? "children").isNone = (other.nonNull? "children").isNone := by
  have listed := alike.listed
  generalize fields.nonNull? "children" = value, other.nonNull? "children" = counterpart at listed ⊢
  cases listed <;> rfl

theorem formRules {form : Form} (asked : form ≠ .node → kind.isSome) : form.rules fields = form.rules other := by
  have own : form.ownRules fields = form.ownRules other := by
    cases form with
    | node => rfl
    | _ =>
      have known := asked (by simp)
      have valued : fields.contains "value" = other.contains "value" := congrArg Option.isSome (alike.valued known)
      simp only [Form.ownRules, valued, alike.contained known, alike.isNone_children]
  simp only [Form.rules, alike.typed, alike.placed, alike.childrenRule, own]

theorem categoryRules (category : Category) (known : kind.isSome) :
    category.rules fields = category.rules other := by
  cases category with
  | parent | void => exact alike.formRules fun _ => known
  | literal => simp only [Category.rules, alike.formRules fun _ => known, alike.valued known]

end Json.Fields.AlikeOnEntry

theorem Grammar.onEntry_congr {grammar : Grammar} {fields other : Fields}
    (known : grammar.kind? (.object fields) = grammar.kind? (.object other))
    (alike : fields.AlikeOnEntry (grammar.kind? (.object fields)) other) :
    grammar.onEntry (.object fields) = grammar.onEntry (.object other) := by
  rw [onEntry_object, onEntry_object, ← known]
  cases held : grammar.kind? (.object fields) with
  | none => exact alike.formRules fun asked => absurd rfl asked
  | some kind => exact alike.categoryRules kind.category (by simp [held])

namespace Json

/-- Two nodes that agree in all that is looked at before their children are, except for the children themselves,
which both have as an array. -/
structure AlikeAbove (node other : Json) : Prop where
  typed : node.fields.get? "type" = other.fields.get? "type"
  placed : node.fields.get? "position" = other.fields.get? "position"
  valued : node.fields.get? "value" = other.fields.get? "value"
  listed : node.HoldsChildren
  otherListed : other.HoldsChildren

namespace AlikeAbove
variable {node other : Json} (alike : AlikeAbove node other)
include alike

theorem standing : Standing.of node = Standing.of other := by
  simp only [Standing.of, alike.typed]

theorem kind? (grammar : Grammar) : grammar.kind? node = grammar.kind? other := by
  simp only [Grammar.kind?, alike.typed]

theorem under (grammar : Grammar) : grammar.under node = grammar.under other := by
  simp only [Grammar.under, alike.kind?]

theorem alikeOnEntry (kind : Option Kind) : node.fields.AlikeOnEntry kind other.fields := by
  obtain ⟨items, held⟩ := alike.listed
  obtain ⟨others, otherHeld⟩ := alike.otherListed
  constructor
  · simp only [Form.typeRules, alike.typed]
  · simp only [Position.rules, Fields.nonNull?_congr alike.placed]
  · simp only [Fields.nonNull?, held, otherHeld]
    exact .some (.arrays items others)
  · intro
    exact alike.valued
  · intro
    simp only [Fields.contains, held, otherHeld, Option.isSome_some]

theorem onEntry (grammar : Grammar) : grammar.onEntry node = grammar.onEntry other := by
  have same := alike.alikeOnEntry
  have known := alike.kind? grammar
  obtain ⟨fields, rfl⟩ := alike.listed.isObject
  obtain ⟨others, rfl⟩ := alike.otherListed.isObject
  exact Grammar.onEntry_congr known (same _)

end AlikeAbove

theorem alikeAbove_withChildren {node : Json} (listed : node.HoldsChildren) (items : List Json) :
    AlikeAbove node (node.withChildren items) where
  typed := by simp [get?_withChildren listed]
  placed := by simp [get?_withChildren listed]
  valued := by simp [get?_withChildren listed]
  listed := listed
  otherListed := ⟨items, by simp [get?_withChildren listed]⟩

end Json

theorem Kind.children_not_mem_ownKeys (kind : Kind) : "children" ∉ kind.ownKeys := by
  cases kind <;> decide

theorem Kind.position_not_mem_ownKeys (kind : Kind) : "position" ∉ kind.ownKeys := by
  cases kind <;> decide

theorem onExit_withChildren {node : Json} (listed : node.HoldsChildren) (items : List Json) (grammar : Grammar)
    (parent : Option Json) : grammar.onExit (node.withChildren items) parent = grammar.onExit node parent := by
  unfold Grammar.onExit
  rw [← (Json.alikeAbove_withChildren listed items).kind? grammar]
  split
  next kind known =>
    apply Markdown.ownRules_congr
    intro key member
    have different : key ≠ "children" := fun same => kind.children_not_mem_ownKeys (same ▸ member)
    apply Json.Fields.nonNull?_congr
    rw [Json.get?_withChildren listed, if_neg different]
  next => rfl

end MarkdownTree
