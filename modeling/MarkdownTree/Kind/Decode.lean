import MarkdownTree.Json.Printer
import MarkdownTree.Kind.Basic
import MarkdownTree.Text.Quoted

/-! Kinds and categories as JSON values. A constant is written as its name, and read as its name or as an object
that has the name for its only key and null for its value. -/

namespace MarkdownTree

inductive DecodeError
  | unknownName (name : String) (expected : List String)
  | notSingleKey
  | notNull (payload : Json)
  | notName (value : Json)

namespace DecodeError

/-- What an error text says of a value that has the wrong type. -/
def describe : Json → String
  | .null => "null"
  | .bool value => "boolean `" ++ (Json.bool value).render ++ "`"
  | .number (.integer value least limit) => "integer `" ++ (Json.number (.integer value least limit)).render ++ "`"
  | .number (.float value) => "floating point `" ++ (Json.number (.float value)).render ++ "`"
  | .string value => "string " ++ Text.quote value
  | .array _ => "sequence"
  | .object _ => "map"

def message : DecodeError → String
  | .unknownName name expected =>
    "unknown variant `" ++ name ++ "`, expected one of " ++ ", ".intercalate (expected.map ("`" ++ · ++ "`"))
  | .notSingleKey => "invalid value: map, expected map with a single key"
  | .notNull payload => "invalid type: " ++ describe payload ++ ", expected unit"
  | .notName value => "invalid type: " ++ describe value ++ ", expected string or map"

end DecodeError

/-- Finds the constant with a name. -/
def decodeName (constants : List α) (nameOf : α → String) (name : String) : Except DecodeError α :=
  match constants.find? (nameOf · = name) with
  | some constant => .ok constant
  | none => .error (.unknownName name (constants.map nameOf))

/-- An unknown key is reported before a payload that is not null. -/
def decodeConstant (constants : List α) (nameOf : α → String) : Json → Except DecodeError α
  | .string name => decodeName constants nameOf name
  | .object [(name, payload)] => do
    let constant ← decodeName constants nameOf name
    match payload with
    | .null => return constant
    | _ => throw (.notNull payload)
  | .object _ => throw .notSingleKey
  | value => throw (.notName value)

/-- A name with a small first letter. -/
def camelCase (name : String) : String :=
  match name.toList with
  | [] => ""
  | first :: rest => String.ofList (first.toLower :: rest)

namespace Kind

def jsonName (kind : Kind) : String :=
  camelCase kind.name

def toJson (kind : Kind) : Json :=
  .string kind.jsonName

def decode (value : Json) : Except DecodeError Kind :=
  decodeConstant all jsonName value

end Kind

def Category.decode (value : Json) : Except DecodeError Category :=
  decodeConstant all name value

end MarkdownTree
