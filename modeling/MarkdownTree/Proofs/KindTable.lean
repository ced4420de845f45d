import MarkdownTree.Proofs.RuleTable
import MarkdownTree.Proofs.Validators

/-! The rules that the kinds have for their own fields, kind by kind as a table. The rules of a validator report the
first broken rule of the table. All that they ask for and complain of can be read off its rows. -/

namespace MarkdownTree
open Json (Fields)
open Markdown
open Rule (judge)

/-- The names of the fields in the table, which does not rely on the names that the checks use. -/
def Field.tableKey : Field → String
  | .spread => "spread"
  | .ordered => "ordered"
  | .checked => "checked"
  | .lang => "lang"
  | .info => "meta"
  | .identifier => "identifier"
  | .url => "url"
  | .label => "label"
  | .title => "title"
  | .alt => "alt"

theorem Field.key_eq (field : Field) : field.key = field.tableKey := by
  cases field <;> rfl

namespace Rule

def optionalBoolean (field : Field) : Rule Fields where
  violation := .notBoolean field
  ruleClass := .fieldType
  message := "`" ++ field.tableKey ++ "` must be `boolean`"
  brokenBy fields := fields.holds field.tableKey (!·.isBool)
  message_eq := by rw [← field.key_eq]; rfl

def optionalString (field : Field) : Rule Fields where
  violation := .notString field
  ruleClass := .fieldType
  message := "`" ++ field.tableKey ++ "` must be `string`"
  brokenBy fields := fields.holds field.tableKey (!·.isString)
  message_eq := by rw [← field.key_eq]; rfl

def requiredString (field : Field) : Rule Fields where
  violation := .notString field
  ruleClass := .fieldType
  message := "`" ++ field.tableKey ++ "` must be `string`"
  brokenBy fields := !fields.holds field.tableKey (·.isString)
  message_eq := by rw [← field.key_eq]; rfl

/-- The first number of a list, which only an ordered one has. -/
def startTable : List (Rule Fields) :=
  [{ violation := .startUnordered
     ruleClass := .crossField
     message := "unordered lists must not have `start`"
     brokenBy := fun fields => !fields.isAbsent "start" && !fields.holds "ordered" (·.isTrue) },
   { violation := .startNotNumber
     ruleClass := .fieldType
     message := "`start` must be `number`"
     brokenBy := fun fields => fields.holds "start" (!·.isNumber) },
   { violation := .startTooSmall
     ruleClass := .fieldRange
     message := "`start` must be gte `0`"
     brokenBy := fun fields => fields.holds "start" (·.isBelow 0) }]

def depthTable : List (Rule Fields) :=
  [{ violation := .depthNotNumber
     ruleClass := .fieldType
     message := "`depth` should be a number"
     brokenBy := fun fields => !fields.holds "depth" (·.isNumber) },
   { violation := .depthTooSmall
     ruleClass := .fieldRange
     message := "`depth` should be gte `1`"
     brokenBy := fun fields => fields.holds "depth" (·.isBelow 1) },
   { violation := .depthTooLarge
     ruleClass := .fieldRange
     message := "`depth` should be lte `6`"
     brokenBy := fun fields => fields.holds "depth" (·.isAbove 6) }]

def infoWithoutLang : Rule Fields where
  violation := .infoWithoutLang
  ruleClass := .crossField
  message := "code with `meta` must also have `lang`"
  brokenBy fields := !fields.isAbsent "meta" && fields.isAbsent "lang"

def footnoteIdentifier : Rule Fields where
  violation := .footnoteWithoutIdentifier
  ruleClass := .fieldType
  message := "`footnoteDefinition` must have `identifier`"
  brokenBy fields := !fields.holds "identifier" (·.isString)

def referenceType : Rule Fields where
  violation := .referenceTypeUnknown
  ruleClass := .fieldEnum
  message := "`referenceType` must be `shortcut`, `collapsed`, or `full`"
  brokenBy fields := fields.holds "referenceType" (!·.isOneOf ["shortcut", "collapsed", "full"])

def alignTable : List (Rule Fields) :=
  [{ violation := .alignNotArray
     ruleClass := .fieldType
     message := "`align` must be `array`"
     brokenBy := fun fields => fields.holds "align" (!·.isArray) },
   { violation := .alignUnknown
     ruleClass := .fieldEnum
     message := "each align in table must be `null, 'left', 'right', 'center'`"
     brokenBy := fun fields => fields.holds "align" fun
       | .array columns => columns.any fun column => !column.isNull && !column.isOneOf ["left", "right", "center"]
       | _ => false }]

def rootWithParent (parent : Option Json) : Rule Fields where
  violation := .rootWithParent
  ruleClass := .context
  message := "`root` should not have a parent"
  brokenBy _ := parent.isSome

end Rule

/-- The rules of a kind in the order in which they are reported, for a node with the given parent. -/
def Kind.ruleTable (parent : Option Json) : Kind → List (Rule Fields)
  | .root => [.rootWithParent parent]
  | .list => [.optionalBoolean .spread, .optionalBoolean .ordered] ++ Rule.startTable
  | .listItem => [.optionalBoolean .spread, .optionalBoolean .checked]
  | .heading => Rule.depthTable
  | .code => [.optionalString .lang, .infoWithoutLang, .optionalString .info]
  | .footnoteDefinition => [.footnoteIdentifier, .optionalString .label]
  | .footnoteReference => [.requiredString .identifier, .optionalString .label]
  | .definition =>
    [.requiredString .identifier, .requiredString .url, .optionalString .label, .optionalString .title]
  | .link => [.requiredString .url, .optionalString .title]
  | .image => [.requiredString .url, .optionalString .title, .optionalString .alt]
  | .linkReference => [.requiredString .identifier, .optionalString .label, .referenceType]
  | .imageReference => [.requiredString .identifier, .optionalString .label, .optionalString .alt, .referenceType]
  | .table => Rule.alignTable
  | .paragraph | .thematicBreak | .blockquote | .html | .yaml | .toml | .tableRow | .tableCell | .text
  | .emphasis | .strong | .delete | .inlineCode | .lineBreak | .footnote => []

namespace Markdown
variable (field : Field) (fields : Fields)

theorem optionalBoolean_eq_judge : optionalBoolean field fields = judge [.optionalBoolean field] fields := by
  simp only [Rule.judge_cons, Rule.optionalBoolean, Fields.holds_eq, optionalBoolean, field.key_eq]
  cases fields.nonNull? field.tableKey with
  | none => rfl
  | some value => cases value <;> rfl

theorem optionalString_eq_judge : optionalString field fields = judge [.optionalString field] fields := by
  simp only [Rule.judge_cons, Rule.optionalString, Fields.holds_eq, optionalString, field.key_eq]
  cases fields.nonNull? field.tableKey with
  | none => rfl
  | some value => cases value <;> rfl

theorem requiredString_eq_judge : requiredString field fields = judge [.requiredString field] fields := by
  simp only [Rule.judge_cons, Rule.requiredString, Fields.holds, requiredString, field.key_eq]
  cases fields.get? field.tableKey with
  | none => rfl
  | some value => cases value <;> rfl

theorem referenceTypeRule_eq_judge : referenceTypeRule fields = judge [.referenceType] fields := by
  simp only [Rule.judge_cons, Rule.referenceType, Fields.holds_eq, referenceTypeRule]
  cases fields.nonNull? "referenceType" with
  | none => rfl
  | some value =>
    cases value with
    | string choice =>
      have choices : (Json.string choice).isOneOf ["shortcut", "collapsed", "full"] =
          decide (choice ∈ referenceTypes) := rfl
      by_cases known : choice ∈ referenceTypes <;> simp [choices, known]
    | _ => rfl

theorem startRule_eq_judge : startRule fields = judge Rule.startTable fields := by
  simp only [Rule.startTable, Rule.judge_cons, Fields.isAbsent_eq, Fields.holds_eq fields "start"]
  cases held : fields.nonNull? "start" with
  | none => simp [startRule, held]
  | some value =>
    by_cases ordered : fields.get? "ordered" = some (.bool true)
    · have accepted : fields.holds "ordered" (·.isTrue) = true := Fields.holds_isTrue_iff.2 ordered
      cases value with
      | number start =>
        cases enough : start.atLeast 0 <;>
          simp [startRule, held, ordered, accepted, Json.isNumber, Json.isBelow_number, enough]
      | _ => simp [startRule, held, ordered, accepted, Json.isNumber]
    · have unordered : fields.holds "ordered" (·.isTrue) = false := by
        simpa [Fields.holds_isTrue_iff, ← Bool.not_eq_true] using ordered
      have misplaced : startRule fields = .error .startUnordered := by
        rw [startRule, held]
        grind
      simp [misplaced, unordered]

theorem headingRules_eq_judge : headingRules fields = judge Rule.depthTable fields := by
  simp only [Rule.depthTable, Rule.judge_cons, Fields.holds]
  cases held : fields.get? "depth" with
  | none => simp [headingRules, held]
  | some value =>
    cases value <;>
      simp [headingRules, held, Json.isNull, Json.isNumber, Json.isBelow_number, Json.isAbove_number]

theorem infoRule_eq_judge : infoRule fields = judge [.infoWithoutLang, .optionalString .info] fields := by
  simp only [Rule.judge_cons, Rule.infoWithoutLang, Rule.optionalString, Fields.isAbsent_eq, Fields.holds_eq]
  cases held : fields.nonNull? "meta" with
  | none => simp [infoRule, Field.key, Field.tableKey, held]
  | some value => cases value <;> simp [infoRule, Field.key, Field.tableKey, held, Json.isString]

theorem footnoteDefinitionRules_eq_judge :
    footnoteDefinitionRules fields = judge [.footnoteIdentifier, .optionalString .label] fields := by
  rw [Rule.judge_cons, ← optionalString_eq_judge, footnoteDefinitionRules, Field.key]
  cases held : fields.get? "identifier" with
  | none => simp [Rule.footnoteIdentifier, Fields.holds, held]
  | some value => cases value <;> simp [Rule.footnoteIdentifier, Fields.holds, held, Json.isNull, Json.isString]

theorem isAlignment_eq (column : Json) :
    isAlignment column = (column.isNull || column.isOneOf ["left", "right", "center"]) := by
  cases column <;> rfl

theorem tableRules_eq_judge : tableRules fields = judge Rule.alignTable fields := by
  simp only [Rule.alignTable, Rule.judge_cons, Fields.holds_eq, tableRules]
  cases fields.nonNull? "align" with
  | none => rfl
  | some value =>
    cases value with
    | array columns =>
      have columnwise : (columns.any fun column => !column.isNull && !column.isOneOf ["left", "right", "center"]) =
          !columns.all isAlignment := by
        simp only [List.not_all_eq_any_not, isAlignment_eq, Bool.not_or]
      cases known : columns.all isAlignment <;> simp [Json.isArray, columnwise, known]
    | _ => rfl

theorem rootRule_eq_judge (parent : Option Json) : rootRule parent = judge [.rootWithParent parent] fields := by
  cases parent <;> simp [rootRule, Rule.judge_cons, Rule.rootWithParent]

theorem ownRules_eq_judge (kind : Kind) (parent : Option Json) :
    ownRules kind fields parent = judge (kind.ruleTable parent) fields := by
  cases kind with
  | root => exact rootRule_eq_judge fields parent
  | heading => exact headingRules_eq_judge fields
  | footnoteDefinition => exact footnoteDefinitionRules_eq_judge fields
  | table => exact tableRules_eq_judge fields
  | code =>
    simp only [ownRules, validator, Validator.code, codeRules, optionalString_eq_judge, infoRule_eq_judge]
    exact (Rule.judge_append ..).symm
  -- Here the rules are a sequence of which each member is a table of its own.
  | list | listItem | definition | link | image | linkReference | imageReference | footnoteReference =>
    simp only [ownRules, validator, Validator.list, Validator.listItem, Validator.definition, Validator.link,
      Validator.image, Validator.linkReference, Validator.imageReference, Validator.footnoteReference, listRules,
      listItemRules, definitionRules, linkRules, imageRules, linkReferenceRules, imageReferenceRules,
      footnoteReferenceRules, Kind.ruleTable, Rule.judge_append, Rule.judge_cons_cons, bind_assoc,
      optionalBoolean_eq_judge, optionalString_eq_judge, requiredString_eq_judge, startRule_eq_judge,
      referenceTypeRule_eq_judge]
  | _ => rfl

variable {fields} {kind : Kind} {parent : Option Json} {violation : Violation}

theorem ruleClass_ne_shape (broken : ownRules kind fields parent = .error violation) :
    violation.ruleClass ≠ .shape := by
  have table : ∀ rule ∈ kind.ruleTable parent, rule.ruleClass ≠ .shape := by
    cases kind <;>
      simp [Kind.ruleTable, Rule.rootWithParent, Rule.optionalBoolean, Rule.optionalString, Rule.requiredString,
        Rule.startTable, Rule.depthTable, Rule.infoWithoutLang, Rule.footnoteIdentifier, Rule.referenceType,
        Rule.alignTable]
  rw [ownRules_eq_judge] at broken
  obtain ⟨rule, member, -, rfl⟩ := Rule.exists_mem_of_judge_error broken
  rw [rule.ruleClass_eq]
  exact table rule member

end Markdown
end MarkdownTree
