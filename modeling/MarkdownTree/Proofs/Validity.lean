import MarkdownTree.Proofs.Descent
import MarkdownTree.Proofs.KindTable
import MarkdownTree.Proofs.ShapeTable

/-! What makes a tree valid, said of its nodes one by one and without an order of checks. A check accepts exactly
the valid trees. -/

namespace MarkdownTree
open Json (Fields)

namespace Json

def IsString (value : Json) : Prop :=
  ∃ text, value = .string text

def IsBool (value : Json) : Prop :=
  ∃ truth, value = .bool truth

def IsArray (value : Json) : Prop :=
  ∃ items, value = .array items

/-- Bounds are those of the exact value of a number. -/
def IsNumberFrom (least : ℚ) (value : Json) : Prop :=
  ∃ number, value = .number number ∧ least ≤ number.value

def IsOneOf (choices : List String) (value : Json) : Prop :=
  ∃ choice ∈ choices, value = .string choice

namespace Fields

def Lacks (fields : Fields) (key : String) : Prop :=
  fields.get? key = none

/-- A field that may be missing or null, and is accepted otherwise. -/
def Optional (fields : Fields) (key : String) (accepts : Json → Prop) : Prop :=
  ∀ value, fields.get? key = some value → value = .null ∨ accepts value

def Required (fields : Fields) (key : String) (accepts : Json → Prop) : Prop :=
  ∃ value, fields.get? key = some value ∧ accepts value

end Fields

def IsPoint (value : Json) : Prop :=
  ∃ point : Fields, value = .object point ∧ point.Optional "line" (IsNumberFrom 1) ∧
    point.Optional "column" (IsNumberFrom 1) ∧ point.Optional "offset" (IsNumberFrom 0)

def IsPosition (value : Json) : Prop :=
  ∃ position : Fields, value = .object position ∧ position.Optional "start" IsPoint ∧ position.Optional "end" IsPoint

def IsNode (value : Json) : Prop :=
  ∃ fields : Fields, value = .object fields ∧ fields.Required "type" (fun tag => tag.IsString ∧ tag ≠ .string "") ∧
    fields.Optional "position" IsPosition ∧ fields.Optional "children" IsArray

end Json

/-- A parent has no value, a literal has no children, and a void node has neither, not even as null. -/
def Category.Holds : Category → Fields → Prop
  | .parent, fields => fields.Lacks "value" ∧ fields.Required "children" Json.IsArray
  | .literal, fields => fields.Lacks "children" ∧ fields.Required "value" Json.IsString
  | .void, fields => fields.Lacks "value" ∧ fields.Lacks "children"

def Kind.Admits : Kind → Fields → Prop
  | .list, fields =>
    fields.Optional "spread" Json.IsBool ∧ fields.Optional "ordered" Json.IsBool ∧
      fields.Optional "start" fun start => fields.get? "ordered" = some (.bool true) ∧ start.IsNumberFrom 0
  | .listItem, fields => fields.Optional "spread" Json.IsBool ∧ fields.Optional "checked" Json.IsBool
  | .heading, fields =>
    fields.Required "depth" fun depth => ∃ number, depth = .number number ∧ 1 ≤ number.value ∧ number.value ≤ 6
  | .code, fields =>
    fields.Optional "lang" Json.IsString ∧
      fields.Optional "meta" fun info => fields.Required "lang" (· ≠ .null) ∧ info.IsString
  | .footnoteDefinition, fields | .footnoteReference, fields =>
    fields.Required "identifier" Json.IsString ∧ fields.Optional "label" Json.IsString
  | .definition, fields =>
    fields.Required "identifier" Json.IsString ∧ fields.Required "url" Json.IsString ∧
      fields.Optional "label" Json.IsString ∧ fields.Optional "title" Json.IsString
  | .link, fields => fields.Required "url" Json.IsString ∧ fields.Optional "title" Json.IsString
  | .image, fields =>
    fields.Required "url" Json.IsString ∧ fields.Optional "title" Json.IsString ∧ fields.Optional "alt" Json.IsString
  | .linkReference, fields =>
    fields.Required "identifier" Json.IsString ∧ fields.Optional "label" Json.IsString ∧
      fields.Optional "referenceType" (Json.IsOneOf ["shortcut", "collapsed", "full"])
  | .imageReference, fields =>
    fields.Required "identifier" Json.IsString ∧ fields.Optional "label" Json.IsString ∧
      fields.Optional "alt" Json.IsString ∧
      fields.Optional "referenceType" (Json.IsOneOf ["shortcut", "collapsed", "full"])
  | .table, fields =>
    fields.Optional "align" fun align => ∃ columns, align = .array columns ∧
      ∀ column ∈ columns, column = .null ∨ column.IsOneOf ["left", "right", "center"]
  | .root, _ | .paragraph, _ | .thematicBreak, _ | .blockquote, _ | .html, _ | .yaml, _ | .toml, _ | .tableRow, _
  | .tableCell, _ | .text, _ | .emphasis, _ | .strong, _ | .delete, _ | .inlineCode, _ | .lineBreak, _
  | .footnote, _ => True

namespace Json
variable {value : Json}

theorem isNull_eq_false_iff : value.isNull = false ↔ value ≠ .null := by
  cases value <;> simp [isNull]

theorem isBool_iff : value.isBool = true ↔ value.IsBool := by
  cases value <;> simp [isBool, IsBool]

theorem isString_iff : value.isString = true ↔ value.IsString := by
  cases value <;> simp [isString, IsString]

theorem isArray_iff : value.isArray = true ↔ value.IsArray := by
  cases value <;> simp [isArray, IsArray]

theorem isOneOf_iff {choices : List String} : value.isOneOf choices = true ↔ value.IsOneOf choices := by
  cases value <;> simp [isOneOf, IsOneOf]

theorem isNumberFrom_iff (bound : ℕ) :
    value.IsNumberFrom bound ↔ value.isNumber = true ∧ value.isBelow bound = false := by
  cases value <;> simp [isNumber, isBelow, IsNumberFrom]

namespace Fields
variable {fields : Fields} {key : String} {test : Json → Bool}

theorem holds_eq_false_iff : fields.holds key test = false ↔ fields.Optional key fun value => test value = false := by
  rw [← Bool.not_eq_true, holds_iff]
  simp only [Optional, not_exists, not_and, Bool.not_eq_true, or_iff_not_imp_left]

theorem holds_eq_true_iff (null : test .null = false) :
    fields.holds key test = true ↔ fields.Required key fun value => test value = true := by
  rw [holds_iff]
  refine exists_congr fun value => and_congr_right fun _ => and_iff_right_of_imp ?_
  rintro accepted rfl
  simp [null] at accepted

theorem holds_isString_iff : fields.holds key (·.isString) = true ↔ fields.Required key Json.IsString := by
  simp [holds_eq_true_iff (rfl : Json.null.isString = false), isString_iff]

theorem isAbsent_eq_false_iff : fields.isAbsent key = false ↔ fields.Required key (· ≠ .null) := by
  unfold isAbsent Required
  cases fields.get? key with
  | none => simp
  | some value => cases value <;> simp [isNull]

theorem optional_and_iff {first second : Json → Prop} :
    fields.Optional key (fun value => first value ∧ second value) ↔
      fields.Optional key first ∧ fields.Optional key second := by
  unfold Optional
  grind

theorem optional_isNumberFrom_iff (bound : ℕ) : fields.Optional key (Json.IsNumberFrom bound) ↔
    (fields.Optional key fun value => value.isNumber = true) ∧
      fields.Optional key fun value => value.isBelow bound = false := by
  rw [← optional_and_iff]
  simp only [← isNumberFrom_iff]

theorem optional_const_iff {condition : Prop} :
    fields.Optional key (fun _ => condition) ↔ (fields.isAbsent key = false → condition) := by
  rw [isAbsent_eq_false_iff]
  unfold Optional Required
  grind

end Fields
end Json

variable {fields : Fields}

namespace Rule
variable {field : Field}

theorem optionalBoolean_iff :
    (optionalBoolean field).brokenBy fields = false ↔ fields.Optional field.tableKey Json.IsBool := by
  simp [optionalBoolean, Fields.holds_eq_false_iff, Json.isBool_iff]

theorem optionalString_iff :
    (optionalString field).brokenBy fields = false ↔ fields.Optional field.tableKey Json.IsString := by
  simp [optionalString, Fields.holds_eq_false_iff, Json.isString_iff]

theorem requiredString_iff :
    (requiredString field).brokenBy fields = false ↔ fields.Required field.tableKey Json.IsString := by
  simp [requiredString, Fields.holds_isString_iff]

theorem footnoteIdentifier_iff :
    footnoteIdentifier.brokenBy fields = false ↔ fields.Required "identifier" Json.IsString := by
  simp [footnoteIdentifier, Fields.holds_isString_iff]

theorem referenceType_iff : referenceType.brokenBy fields = false ↔
    fields.Optional "referenceType" (Json.IsOneOf ["shortcut", "collapsed", "full"]) := by
  simp [referenceType, Fields.holds_eq_false_iff, Json.isOneOf_iff]

theorem startTable_iff : (∀ rule ∈ startTable, rule.brokenBy fields = false) ↔
    fields.Optional "start" fun start => fields.get? "ordered" = some (.bool true) ∧ start.IsNumberFrom 0 := by
  rw [Fields.optional_and_iff, Fields.optional_const_iff, ← Nat.cast_zero, Fields.optional_isNumberFrom_iff]
  simp [startTable, Fields.holds_eq_false_iff, Fields.holds_isTrue_iff]

theorem info_iff : (∀ rule ∈ [infoWithoutLang, optionalString .info], rule.brokenBy fields = false) ↔
    fields.Optional "meta" fun info => fields.Required "lang" (· ≠ .null) ∧ info.IsString := by
  rw [Fields.optional_and_iff, Fields.optional_const_iff]
  simp [infoWithoutLang, optionalString_iff, Fields.isAbsent_eq_false_iff, Field.tableKey]

/-- A part that may be missing, and otherwise must be an object that breaks none of the rules of a table. -/
theorem part_iff {key : String} {table : List (Rule Fields)} {accepts : Fields → Prop}
    (rows : ∀ part, (∀ rule ∈ table, rule.brokenBy part = false) ↔ accepts part) :
    (fields.holds key (·.object?.isNone) = false ∧
        ∀ rule ∈ table.map (onPart (·.object? key)), rule.brokenBy fields = false) ↔
      fields.Optional key fun value => ∃ part, value = .object part ∧ accepts part := by
  simp only [Fields.holds_eq_false_iff, Fields.Optional, ← rows, List.forall_mem_map, onPart, Fields.object?]
  cases held : fields.get? key with
  | none => simp
  | some value => cases value <;> simp [Json.object?]

theorem depthTable_iff : (∀ rule ∈ depthTable, rule.brokenBy fields = false) ↔
    fields.Required "depth" fun depth => ∃ number, depth = .number number ∧ 1 ≤ number.value ∧ number.value ≤ 6 := by
  simp only [depthTable, Fields.holds, Fields.Required]
  cases held : fields.get? "depth" with
  | none => simp [held]
  | some value => cases value <;> simp [held, Json.isNull, Json.isNumber, Json.isBelow, Json.isAbove]

theorem alignTable_iff : (∀ rule ∈ alignTable, rule.brokenBy fields = false) ↔
    fields.Optional "align" fun align => ∃ columns, align = .array columns ∧
      ∀ column ∈ columns, column = .null ∨ column.IsOneOf ["left", "right", "center"] := by
  simp only [alignTable, Fields.holds_eq_false_iff, List.forall_mem_cons, List.not_mem_nil, false_implies,
    implies_true, and_true, ← Fields.optional_and_iff]
  unfold Fields.Optional
  refine forall_congr' fun align => forall_congr' fun _ => or_congr_right ?_
  cases align <;> simp [Json.isArray, Json.isNull_eq_false_iff, Json.isOneOf_iff, or_iff_not_imp_left]

end Rule

namespace Position

theorem coordinateTable_iff {boundary : Boundary} {axis : Axis} :
    (∀ rule ∈ coordinateTable boundary axis, rule.brokenBy fields = false) ↔
      fields.Optional axis.tableKey (Json.IsNumberFrom axis.tableBound) := by
  simp [coordinateTable, Fields.holds_eq_false_iff, Fields.optional_isNumberFrom_iff]

theorem pointTable_iff {boundary : Boundary} :
    (∀ rule ∈ pointTable boundary, rule.brokenBy fields = false) ↔ fields.Optional boundary.tableKey Json.IsPoint := by
  rw [pointTable, List.forall_mem_cons]
  refine Rule.part_iff fun point => ?_
  simp [or_imp, forall_and, coordinateTable_iff, Axis.tableKey, Axis.tableBound]

theorem ruleTable_iff :
    (∀ rule ∈ ruleTable, rule.brokenBy fields = false) ↔ fields.Optional "position" Json.IsPosition := by
  rw [ruleTable, List.forall_mem_cons]
  refine Rule.part_iff fun position => ?_
  simp [or_imp, forall_and, pointTable_iff, Boundary.tableKey]

end Position

namespace Form

theorem typeTable_iff : (∀ rule ∈ typeTable, rule.brokenBy fields = false) ↔
    fields.Required "type" fun tag => tag.IsString ∧ tag ≠ .string "" := by
  simp only [typeTable, Fields.Required]
  cases held : fields.get? "type" with
  | none => simp [held]
  | some value => cases value <;> simp [held, Json.isString, Json.isOneOf, Json.IsString]

theorem childrenTable_iff :
    (∀ rule ∈ childrenTable, rule.brokenBy fields = false) ↔ fields.Optional "children" Json.IsArray := by
  simp [childrenTable, Fields.holds_eq_false_iff, Json.isArray_iff]

theorem ownRules_ok_iff {form : Form} :
    form.ownRules fields = .ok () ↔ ∀ rule ∈ form.ownTable, rule.brokenBy fields = false := by
  rw [ownRules_eq_judge, Rule.judge_ok_iff]

theorem parentRules_ok_iff :
    ownRules .parent fields = .ok () ↔ fields.Lacks "value" ∧ fields.Required "children" (· ≠ .null) := by
  simp [ownRules_ok_iff, ownTable, Fields.Lacks, Fields.isAbsent_eq_false_iff]

theorem literalRules_ok_iff :
    ownRules .literal fields = .ok () ↔ fields.Lacks "children" ∧ ¬ fields.Lacks "value" := by
  simp [ownRules_ok_iff, ownTable, Fields.Lacks, Option.isSome_iff_ne_none]

theorem voidRules_ok_iff : ownRules .void fields = .ok () ↔ fields.Lacks "value" ∧ fields.Lacks "children" := by
  simp [ownRules_ok_iff, ownTable, Fields.Lacks]

theorem map_check_ok_iff {form : Form} {node : Json} : (form.check node).map (fun _ => ()) = .ok () ↔
    node.IsNode ∧ form.ownRules node.fields = .ok () := by
  simp only [map_ok_iff, and_true, check_ok_iff, typeRules_eq_judge, Position.rules_eq_judge, childrenRule_eq_judge,
    Rule.judge_ok_iff, typeTable_iff, Position.ruleTable_iff, childrenTable_iff]
  constructor
  · rintro ⟨held, rfl, typed, placed, listed, formed⟩
    exact ⟨⟨held, rfl, typed, placed, listed⟩, formed⟩
  · rintro ⟨⟨held, rfl, typed, placed, listed⟩, formed⟩
    exact ⟨held, rfl, typed, placed, listed, formed⟩

end Form

theorem Json.Fields.required_children_iff (listed : fields.Optional "children" Json.IsArray) :
    fields.Required "children" (· ≠ .null) ↔ fields.Required "children" Json.IsArray := by
  refine exists_congr fun value => and_congr_right fun held => ?_
  constructor
  · exact (listed value held).resolve_left
  · rintro ⟨items, rfl⟩
    exact nofun

namespace Markdown

theorem map_categoryCheck_ok_iff {category : Category} {node : Json} :
    (categoryCheck category node).map (fun _ => ()) = .ok () ↔ node.IsNode ∧ category.Holds node.fields := by
  cases category with
  | parent =>
    rw [categoryCheck, Form.map_check_ok_iff, Form.parentRules_ok_iff]
    refine and_congr_right fun ⟨fields, object, _, _, listed⟩ => and_congr_right fun _ => ?_
    subst object
    exact Json.Fields.required_children_iff listed
  | void => rw [categoryCheck, Form.map_check_ok_iff, Form.voidRules_ok_iff, Category.Holds]
  | literal =>
    simp only [categoryCheck, map_ok_iff, literalCheck_ok_iff, and_true]
    constructor
    · rintro ⟨fields, formed, text, found⟩
      obtain ⟨isNode, own⟩ := Form.map_check_ok_iff.1 (map_ok_iff.2 ⟨fields, formed, rfl⟩)
      obtain ⟨rfl, -⟩ := Form.check_ok_iff.1 formed
      exact ⟨isNode, (Form.literalRules_ok_iff.1 own).1, .string text, found, text, rfl⟩
    · rintro ⟨isNode, lacks, value, found, text, rfl⟩
      have own : Form.ownRules .literal node.fields = .ok () :=
        Form.literalRules_ok_iff.2 ⟨lacks, by simp [Json.Fields.Lacks, found]⟩
      obtain ⟨held, formed, -⟩ := map_ok_iff.1 (Form.map_check_ok_iff.2 ⟨isNode, own⟩)
      obtain ⟨rfl, -⟩ := Form.check_ok_iff.1 formed
      exact ⟨held, formed, text, found⟩

/-- The rules of a kind are those of its fields, but for the root, whose place is what counts. -/
theorem ownRules_ok_iff {kind : Kind} {parent : Option Json} :
    ownRules kind fields parent = .ok () ↔ kind.Admits fields ∧ (kind = .root → parent = none) := by
  rw [ownRules_eq_judge, Rule.judge_ok_iff]
  cases kind with
  | root => cases parent <;> simp [Kind.ruleTable, Kind.Admits, Rule.rootWithParent]
  | list =>
    simp [Kind.ruleTable, Kind.Admits, Field.tableKey, Rule.optionalBoolean_iff, ← Rule.startTable_iff]
  | heading => simpa [Kind.ruleTable, Kind.Admits] using Rule.depthTable_iff
  | code => simp [Kind.ruleTable, Kind.Admits, Field.tableKey, Rule.optionalString_iff, ← Rule.info_iff]
  | table => simpa [Kind.ruleTable, Kind.Admits] using Rule.alignTable_iff
  | _ =>
    simp [Kind.ruleTable, Kind.Admits, Field.tableKey, Rule.optionalBoolean_iff, Rule.optionalString_iff,
      Rule.requiredString_iff, Rule.footnoteIdentifier_iff, Rule.referenceType_iff]

end Markdown

theorem verdict_ok_iff_forall {grammar : Grammar} {tree : Json} {parent : Option Json} :
    grammar.verdict tree parent = .ok () ↔ ∀ path node, tree.childAt? path = some node →
      (grammar.descend tree path).onEntry node = .ok () ∧
        (grammar.descend tree path).onExit node (tree.parentAt? parent path) = .ok () := by
  induction tree using Json.childInduction generalizing grammar parent with
  | step tree ih =>
    rw [grammar.verdict_ok_iff]
    constructor
    · rintro ⟨entered, accepted, left⟩ path node reached
      cases path with
      | nil =>
        obtain rfl : tree = node := by simpa using reached
        exact ⟨entered, left⟩
      | cons index path =>
        obtain ⟨child, found, inside⟩ := Json.exists_child_of_childAt?_cons reached
        have member := List.mem_of_getElem? found
        rw [grammar.descend_cons found, Json.parentAt?_cons found]
        exact (ih child member).1 (accepted child member) path node inside
    · intro valid
      obtain ⟨entered, left⟩ := valid [] tree rfl
      refine ⟨entered, fun child member => (ih child member).2 fun path node reached => ?_, left⟩
      obtain ⟨index, found⟩ := List.getElem?_of_mem member
      have checked := valid (index :: path) node (by rwa [Json.childAt?_cons found])
      rwa [grammar.descend_cons found, Json.parentAt?_cons found] at checked

theorem onEntry_ok_iff {grammar : Grammar} {node : Json} : grammar.onEntry node = .ok () ↔
    node.IsNode ∧ ∀ kind, grammar.kind? node = some kind → kind.category.Holds node.fields := by
  unfold Grammar.onEntry
  split
  next kind known => simpa [known] using Markdown.map_categoryCheck_ok_iff
  next unknown =>
    rw [Form.map_check_ok_iff]
    simp [unknown, Form.ownRules]

theorem onExit_ok_iff {grammar : Grammar} {node : Json} {parent : Option Json} :
    grammar.onExit node parent = .ok () ↔
      ∀ kind, grammar.kind? node = some kind → kind.Admits node.fields ∧ (kind = .root → parent = none) := by
  unfold Grammar.onExit
  split
  next kind known => simp [Markdown.ownRules_ok_iff, known]
  next unknown => simp [unknown]

/-- A tree is accepted if and only if every value in it is a node, and every node of a known kind with known tags all
the way above holds what its category holds, has the fields of its kind, and is a root only at the top and without
a parent. -/
theorem accepted_iff_valid (tree : Json) (parent : Option Json) :
    (Markdown.tree tree parent).result = .ok () ↔
      ∀ path node, tree.childAt? path = some node → node.IsNode ∧
        (KindChecked tree path → ∀ kind, node.HasKind kind →
          kind.category.Holds node.fields ∧ kind.Admits node.fields ∧
            (kind = .root → path = [] ∧ parent = none)) := by
  change Grammar.verdict .markdown tree parent = .ok () ↔ _
  rw [verdict_ok_iff_forall]
  refine forall_congr' fun path => forall_congr' fun node => forall_congr' fun reached => ?_
  simp only [onEntry_ok_iff, onExit_ok_iff, kind?_descend_eq_some_iff reached, Json.parentAt?_eq_none_iff reached]
  constructor
  · rintro ⟨⟨isNode, category⟩, fields⟩
    exact ⟨isNode, fun checked kind known => ⟨category kind ⟨checked, known⟩, fields kind ⟨checked, known⟩⟩⟩
  · rintro ⟨isNode, known⟩
    exact ⟨⟨isNode, fun kind ⟨checked, held⟩ => (known checked kind held).1⟩,
      fun kind ⟨checked, held⟩ => (known checked kind held).2⟩

end MarkdownTree
