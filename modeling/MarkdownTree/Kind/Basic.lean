/-! The node kinds of a Markdown tree. -/

namespace MarkdownTree

/-- What a node of a kind holds: children, a string value, or neither. -/
inductive Category
  | parent
  | literal
  | void
  deriving DecidableEq

namespace Category

def all : List Category :=
  [.parent, .literal, .void]

def name : Category → String
  | .parent => "parent"
  | .literal => "literal"
  | .void => "void"

end Category

inductive Kind
  | root
  | paragraph
  | heading
  | thematicBreak
  | blockquote
  | list
  | listItem
  | html
  | code
  | definition
  | footnoteDefinition
  | yaml
  | toml
  | table
  | tableRow
  | tableCell
  | text
  | emphasis
  | strong
  | delete
  | inlineCode
  | lineBreak
  | link
  | image
  | linkReference
  | imageReference
  | footnote
  | footnoteReference
  deriving DecidableEq

namespace Kind

/-- Every kind once, blocks before phrases. -/
def all : List Kind :=
  [.root, .paragraph, .heading, .thematicBreak, .blockquote, .list, .listItem, .html, .code, .definition,
    .footnoteDefinition, .yaml, .toml, .table, .tableRow, .tableCell, .text, .emphasis, .strong, .delete,
    .inlineCode, .lineBreak, .link, .image, .linkReference, .imageReference, .footnote, .footnoteReference]

/-- The `type` of the nodes of a kind. -/
def tag : Kind → String
  | .root => "root"
  | .paragraph => "paragraph"
  | .heading => "heading"
  | .thematicBreak => "thematicBreak"
  | .blockquote => "blockquote"
  | .list => "list"
  | .listItem => "listItem"
  | .html => "html"
  | .code => "code"
  | .definition => "definition"
  | .footnoteDefinition => "footnoteDefinition"
  | .yaml => "yaml"
  | .toml => "toml"
  | .table => "table"
  | .tableRow => "tableRow"
  | .tableCell => "tableCell"
  | .text => "text"
  | .emphasis => "emphasis"
  | .strong => "strong"
  | .delete => "delete"
  | .inlineCode => "inlineCode"
  | .lineBreak => "break"
  | .link => "link"
  | .image => "image"
  | .linkReference => "linkReference"
  | .imageReference => "imageReference"
  | .footnote => "footnote"
  | .footnoteReference => "footnoteReference"

/-- The kind that a `type` stands for. Any other `type` is that of an extension. -/
def ofTag? : String → Option Kind
  | "root" => some .root
  | "paragraph" => some .paragraph
  | "heading" => some .heading
  | "thematicBreak" => some .thematicBreak
  | "blockquote" => some .blockquote
  | "list" => some .list
  | "listItem" => some .listItem
  | "html" => some .html
  | "code" => some .code
  | "definition" => some .definition
  | "footnoteDefinition" => some .footnoteDefinition
  | "yaml" => some .yaml
  | "toml" => some .toml
  | "table" => some .table
  | "tableRow" => some .tableRow
  | "tableCell" => some .tableCell
  | "text" => some .text
  | "emphasis" => some .emphasis
  | "strong" => some .strong
  | "delete" => some .delete
  | "inlineCode" => some .inlineCode
  | "break" => some .lineBreak
  | "link" => some .link
  | "image" => some .image
  | "linkReference" => some .linkReference
  | "imageReference" => some .imageReference
  | "footnote" => some .footnote
  | "footnoteReference" => some .footnoteReference
  | _ => none

/-- The name of a kind as a constant. -/
def name : Kind → String
  | .root => "Root"
  | .paragraph => "Paragraph"
  | .heading => "Heading"
  | .thematicBreak => "ThematicBreak"
  | .blockquote => "Blockquote"
  | .list => "List"
  | .listItem => "ListItem"
  | .html => "Html"
  | .code => "Code"
  | .definition => "Definition"
  | .footnoteDefinition => "FootnoteDefinition"
  | .yaml => "Yaml"
  | .toml => "Toml"
  | .table => "Table"
  | .tableRow => "TableRow"
  | .tableCell => "TableCell"
  | .text => "Text"
  | .emphasis => "Emphasis"
  | .strong => "Strong"
  | .delete => "Delete"
  | .inlineCode => "InlineCode"
  | .lineBreak => "Break"
  | .link => "Link"
  | .image => "Image"
  | .linkReference => "LinkReference"
  | .imageReference => "ImageReference"
  | .footnote => "Footnote"
  | .footnoteReference => "FootnoteReference"

def category : Kind → Category
  | .root | .paragraph | .heading | .blockquote | .list | .listItem | .footnoteDefinition | .table | .tableRow
  | .tableCell | .emphasis | .strong | .delete | .link | .linkReference | .footnote => .parent
  | .html | .code | .yaml | .toml | .text | .inlineCode => .literal
  | .thematicBreak | .definition | .lineBreak | .image | .imageReference | .footnoteReference => .void

def isParent (kind : Kind) : Bool :=
  kind.category = .parent

def isLiteral (kind : Kind) : Bool :=
  kind.category = .literal

def isVoid (kind : Kind) : Bool :=
  kind.category = .void

instance : ToString Kind where
  toString := tag

theorem mem_all (kind : Kind) : kind ∈ all := by
  cases kind <;> decide

theorem tag_of_ofTag? {tag : String} {kind : Kind} (found : ofTag? tag = some kind) : kind.tag = tag := by
  unfold ofTag? at found
  split at found <;> cases found <;> rfl

@[simp] theorem ofTag?_tag (kind : Kind) : ofTag? kind.tag = some kind := by
  cases kind <;> decide

end Kind
end MarkdownTree
