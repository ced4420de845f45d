import MarkdownTree.Field

/-! The ways in which a single node can break the rules. -/

namespace MarkdownTree

/-- What a rule is about: the shape of a node, the type, the range or the choice of a field, fields that must go
together, or where a node stands in the tree. -/
inductive RuleClass
  | shape
  | fieldType
  | fieldRange
  | fieldEnum
  | crossField
  | context
  deriving DecidableEq

namespace RuleClass

def all : List RuleClass :=
  [.shape, .fieldType, .fieldRange, .fieldEnum, .crossField, .context]

def name : RuleClass → String
  | .shape => "shape"
  | .fieldType => "fieldType"
  | .fieldRange => "fieldRange"
  | .fieldEnum => "fieldEnum"
  | .crossField => "crossField"
  | .context => "context"

/-- The name as it appears in log events. -/
def label : RuleClass → String
  | .shape => "Shape"
  | .fieldType => "FieldType"
  | .fieldRange => "FieldRange"
  | .fieldEnum => "FieldEnum"
  | .crossField => "CrossField"
  | .context => "Context"

def ofName? (name : String) : Option RuleClass :=
  all.find? (·.name = name)

end RuleClass

inductive Violation
  | notObject
  | typeMissing
  | typeNotString
  | typeEmpty
  | positionNotObject
  | pointNotObject (boundary : Boundary)
  | coordinateNotNumber (boundary : Boundary) (axis : Axis)
  | coordinateTooSmall (boundary : Boundary) (axis : Axis)
  | childrenNotArray
  | parentWithValue
  | parentWithoutChildren
  | literalWithChildren
  | literalWithoutValue
  | literalValueNotString
  | voidWithValue
  | voidWithChildren
  | rootWithParent
  | notBoolean (field : Field)
  | notString (field : Field)
  | startUnordered
  | startNotNumber
  | startTooSmall
  | depthNotNumber
  | depthTooSmall
  | depthTooLarge
  | infoWithoutLang
  | footnoteWithoutIdentifier
  | referenceTypeUnknown
  | alignNotArray
  | alignUnknown
  deriving DecidableEq

namespace Violation

def ruleClass : Violation → RuleClass
  | .notObject | .typeMissing | .typeNotString | .typeEmpty | .childrenNotArray | .parentWithValue
  | .parentWithoutChildren | .literalWithChildren | .literalWithoutValue | .literalValueNotString
  | .voidWithValue | .voidWithChildren => .shape
  | .positionNotObject | .pointNotObject _ | .coordinateNotNumber _ _ | .notBoolean _ | .notString _
  | .startNotNumber | .depthNotNumber | .footnoteWithoutIdentifier | .alignNotArray => .fieldType
  | .coordinateTooSmall _ _ | .startTooSmall | .depthTooSmall | .depthTooLarge => .fieldRange
  | .referenceTypeUnknown | .alignUnknown => .fieldEnum
  | .startUnordered | .infoWithoutLang => .crossField
  | .rootWithParent => .context

def message : Violation → String
  | .notObject => "node should be an object"
  | .typeMissing => "node should have a type"
  | .typeNotString => "`type` should be a string"
  | .typeEmpty => "`type` should not be empty"
  | .positionNotObject => "`position` should be an object"
  | .pointNotObject boundary => "`position." ++ boundary.key ++ "` should be an object"
  | .coordinateNotNumber boundary axis =>
    "`position." ++ boundary.key ++ "` should have numeric `" ++ axis.key ++ "`"
  | .coordinateTooSmall boundary axis =>
    "`position." ++ boundary.key ++ "." ++ axis.key ++ "` should be gte `" ++ Nat.repr axis.least ++ "`"
  | .childrenNotArray => "`children` should be an array"
  | .parentWithValue => "parent should not have `value`"
  | .parentWithoutChildren => "parent should have `children`"
  | .literalWithChildren => "literal should not have `children`"
  | .literalWithoutValue => "literal should have `value`"
  | .literalValueNotString => "literal should have a string `value`"
  | .voidWithValue => "void should not have `value`"
  | .voidWithChildren => "void should not have `children`"
  | .rootWithParent => "`root` should not have a parent"
  | .notBoolean field => "`" ++ field.key ++ "` must be `boolean`"
  | .notString field => "`" ++ field.key ++ "` must be `string`"
  | .startUnordered => "unordered lists must not have `start`"
  | .startNotNumber => "`start` must be `number`"
  | .startTooSmall => "`start` must be gte `0`"
  | .depthNotNumber => "`depth` should be a number"
  | .depthTooSmall => "`depth` should be gte `1`"
  | .depthTooLarge => "`depth` should be lte `6`"
  | .infoWithoutLang => "code with `meta` must also have `lang`"
  | .footnoteWithoutIdentifier => "`footnoteDefinition` must have `identifier`"
  | .referenceTypeUnknown => "`referenceType` must be `shortcut`, `collapsed`, or `full`"
  | .alignNotArray => "`align` must be `array`"
  | .alignUnknown => "each align in table must be `null, 'left', 'right', 'center'`"

end Violation
end MarkdownTree
