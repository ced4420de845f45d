import MarkdownTree.Text.DefaultIgnorable
import MarkdownTree.Text.GraphemeExtend
import MarkdownTree.Text.Unprintable

/-! Text in quotes, for messages. Whatever could not be told apart on sight is written as an escape. -/

namespace MarkdownTree.Text

/-- A character by its code point in hexadecimal. -/
def codeEscape (char : Char) : List Char :=
  ['\\', 'u', '{'] ++ Nat.toDigits 16 char.toNat ++ ['}']

/-- Marks are escaped wherever they stand, as they would change the look of the character before them. -/
def escape (char : Char) : List Char :=
  match char with
  | '"' => ['\\', '"']
  | '\\' => ['\\', '\\']
  | '\n' => ['\\', 'n']
  | '\r' => ['\\', 'r']
  | '\t' => ['\\', 't']
  | '\x00' => ['\\', '0']
  | _ =>
    if isGraphemeExtend char || isDefaultIgnorable char || isUnprintable char then codeEscape char else [char]

def quote (text : String) : String :=
  String.ofList ('"' :: text.toList.flatMap escape ++ ['"'])

end MarkdownTree.Text
