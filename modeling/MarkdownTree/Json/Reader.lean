import MarkdownTree.Json.Token

/-! Reading JSON text. The tokens are taken one at a time, with the arrays and objects that are still open on a
stack. -/

namespace MarkdownTree.Json

/-- An open array or object: what it holds so far, and for an object the key whose value comes next. Items are
kept last first. -/
inductive Frame
  | array (items : List Json)
  | object (fields : Fields) (key : String)

/-- What a reader expects next, inside the open frames, innermost first. At the first item of an array or the
first field of an object the frame may also close. -/
inductive Reader
  | atValue (frames : List Frame)
  | atItem (frames : List Frame)
  | atKey (fields : Fields) (frames : List Frame)
  | atField (frames : List Frame)
  | atColon (fields : Fields) (key : String) (frames : List Frame)
  | afterValue (value : Json) (frames : List Frame)

namespace Reader

/-- A token at the start of a value. -/
def startValue? (frames : List Frame) : Token → Option Reader
  | .arrayOpen => some (.atItem frames)
  | .objectOpen => some (.atField frames)
  | .text value => some (.afterValue (.string value) frames)
  | .scalar value => some (.afterValue value frames)
  | _ => none

/-- A token after a complete value inside the innermost frame. -/
def endValue? (value : Json) (frames : List Frame) : Frame → Token → Option Reader
  | .array items, .comma => some (.atValue (.array (value :: items) :: frames))
  | .array items, .arrayClose => some (.afterValue (.array (value :: items).reverse) frames)
  | .object fields key, .comma => some (.atKey (fields.insert key value) frames)
  | .object fields key, .objectClose => some (.afterValue (.object (fields.insert key value)) frames)
  | _, _ => none

def step : Reader → Token → Option Reader
  | .atValue frames, token => startValue? frames token
  | .atItem frames, .arrayClose => some (.afterValue (.array []) frames)
  | .atItem frames, token => startValue? (.array [] :: frames) token
  | .atKey fields frames, .text key => some (.atColon fields key frames)
  | .atField frames, .objectClose => some (.afterValue (.object []) frames)
  | .atField frames, .text key => some (.atColon [] key frames)
  | .atColon fields key frames, .colon => some (.atValue (.object fields key :: frames))
  | .afterValue value (frame :: frames), token => endValue? value frames frame token
  | _, _ => none

end Reader

/-- The value that a text spells, if it spells exactly one. -/
def ofText? (text : String) : Option Json := do
  let tokens ← Token.ofText? text.toList
  match ← tokens.foldlM Reader.step (.atValue []) with
  | .afterValue value [] => return value
  | _ => none

end MarkdownTree.Json
