import MarkdownTree.Json.Basic
import MarkdownTree.Violation

/-! The rules that each kind of node has for its own fields, in the order in which they are reported. -/

namespace MarkdownTree.Markdown
open Json (Fields)

def optionalBoolean (field : Field) (fields : Fields) : Except Violation Unit :=
  match fields.nonNull? field.key with
  | none | some (.bool _) => .ok ()
  | some _ => .error (.notBoolean field)

def optionalString (field : Field) (fields : Fields) : Except Violation Unit :=
  match fields.nonNull? field.key with
  | none | some (.string _) => .ok ()
  | some _ => .error (.notString field)

def requiredString (field : Field) (fields : Fields) : Except Violation Unit :=
  match fields.get? field.key with
  | some (.string _) => .ok ()
  | _ => .error (.notString field)

/-- Only an ordered list has a first number. -/
def startRule (fields : Fields) : Except Violation Unit :=
  match fields.nonNull? "start", fields.get? "ordered" with
  | none, _ => .ok ()
  | some (.number start), some (.bool true) => if start.atLeast 0 then .ok () else .error .startTooSmall
  | some _, some (.bool true) => .error .startNotNumber
  | some _, _ => .error .startUnordered

def listRules (fields : Fields) : Except Violation Unit := do
  optionalBoolean .spread fields
  optionalBoolean .ordered fields
  startRule fields

def listItemRules (fields : Fields) : Except Violation Unit := do
  optionalBoolean .spread fields
  optionalBoolean .checked fields

/-- Headings have six ranks. -/
def headingRules (fields : Fields) : Except Violation Unit :=
  match fields.get? "depth" with
  | some (.number depth) =>
    if !depth.atLeast 1 then .error .depthTooSmall
    else if !depth.atMost 6 then .error .depthTooLarge
    else .ok ()
  | _ => .error .depthNotNumber

/-- The info string follows the language, so it cannot stand alone. -/
def infoRule (fields : Fields) : Except Violation Unit :=
  match fields.nonNull? Field.info.key with
  | none => .ok ()
  | some info =>
    if (fields.nonNull? Field.lang.key).isNone then .error .infoWithoutLang
    else
      match info with
      | .string _ => .ok ()
      | _ => .error (.notString .info)

def codeRules (fields : Fields) : Except Violation Unit := do
  optionalString .lang fields
  infoRule fields

def footnoteDefinitionRules (fields : Fields) : Except Violation Unit :=
  match fields.get? Field.identifier.key with
  | some (.string _) => optionalString .label fields
  | _ => .error .footnoteWithoutIdentifier

def definitionRules (fields : Fields) : Except Violation Unit := do
  requiredString .identifier fields
  requiredString .url fields
  optionalString .label fields
  optionalString .title fields

def linkRules (fields : Fields) : Except Violation Unit := do
  requiredString .url fields
  optionalString .title fields

def imageRules (fields : Fields) : Except Violation Unit := do
  requiredString .url fields
  optionalString .title fields
  optionalString .alt fields

def referenceTypes : List String :=
  ["shortcut", "collapsed", "full"]

def referenceTypeRule (fields : Fields) : Except Violation Unit :=
  match fields.nonNull? "referenceType" with
  | none => .ok ()
  | some (.string referenceType) =>
    if referenceType ∈ referenceTypes then .ok () else .error .referenceTypeUnknown
  | some _ => .error .referenceTypeUnknown

def linkReferenceRules (fields : Fields) : Except Violation Unit := do
  requiredString .identifier fields
  optionalString .label fields
  referenceTypeRule fields

def imageReferenceRules (fields : Fields) : Except Violation Unit := do
  requiredString .identifier fields
  optionalString .label fields
  optionalString .alt fields
  referenceTypeRule fields

def footnoteReferenceRules (fields : Fields) : Except Violation Unit := do
  requiredString .identifier fields
  optionalString .label fields

def alignments : List String :=
  ["left", "right", "center"]

/-- A column without an alignment of its own has null. -/
def isAlignment : Json → Bool
  | .null => true
  | .string alignment => alignment ∈ alignments
  | _ => false

def tableRules (fields : Fields) : Except Violation Unit :=
  match fields.nonNull? "align" with
  | none => .ok ()
  | some (.array columns) => if columns.all isAlignment then .ok () else .error .alignUnknown
  | some _ => .error .alignNotArray

/-- Trees are not nested in other trees. -/
def rootRule : Option Json → Except Violation Unit
  | none => .ok ()
  | some _ => .error .rootWithParent

end MarkdownTree.Markdown
