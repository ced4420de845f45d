import MarkdownTree.Json.Basic
import MarkdownTree.Json.Number.Text

/-! The tokens of JSON text, found in one pass over its characters. -/

namespace MarkdownTree.Json

inductive Token
  | arrayOpen
  | arrayClose
  | objectOpen
  | objectClose
  | comma
  | colon
  | text (value : String)
  | scalar (value : Json)

namespace Token

/-- The tokens of one character. -/
def ofChar? : Char → Option Token
  | '[' => some .arrayOpen
  | ']' => some .arrayClose
  | '{' => some .objectOpen
  | '}' => some .objectClose
  | ',' => some .comma
  | ':' => some .colon
  | _ => none

/-- The tokens that are written without quotes. -/
def ofBare? (chars : List Char) : Option Token :=
  if chars = ['n', 'u', 'l', 'l'] then some (.scalar .null)
  else if chars = ['t', 'r', 'u', 'e'] then some (.scalar (.bool true))
  else if chars = ['f', 'a', 'l', 's', 'e'] then some (.scalar (.bool false))
  else (Number.ofChars? chars).map (.scalar <| .number ·)

def isBlank (char : Char) : Bool :=
  char = ' ' || char = '\t' || char = '\n' || char = '\r'

/-- What a letter after a backslash stands for. -/
def unescape? : Char → Option Char
  | '"' => some '"'
  | '\\' => some '\\'
  | '/' => some '/'
  | 'b' => some '\x08'
  | 'f' => some '\x0c'
  | 'n' => some '\n'
  | 'r' => some '\r'
  | 't' => some '\t'
  | _ => none

def hexDigit? (char : Char) : Option Nat :=
  if '0' ≤ char ∧ char ≤ '9' then some (char.toNat - '0'.toNat)
  else if 'a' ≤ char ∧ char ≤ 'f' then some (char.toNat - 'a'.toNat + 10)
  else if 'A' ≤ char ∧ char ≤ 'F' then some (char.toNat - 'A'.toNat + 10)
  else none

/-- Where a scan stands. The characters of an unfinished token are kept last first; `lead` is the first half of
a character beyond the 16-bit range, which waits for its second half. -/
inductive Scan
  | between
  | bare (read : List Char)
  | quoted (read : List Char) (lead : Option Nat)
  | escaped (read : List Char) (lead : Option Nat)
  | unit (read : List Char) (lead : Option Nat) (digits value : Nat)

/-- A finished 16-bit unit: a character, the first half of one, or the second half after a first. -/
def Scan.unitDone? (read : List Char) (lead : Option Nat) (value : Nat) : Option Scan :=
  match lead with
  | none =>
    if 0xd800 ≤ value ∧ value < 0xdc00 then some (.quoted read (some value))
    else if 0xdc00 ≤ value ∧ value < 0xe000 then none
    else some (.quoted (Char.ofNat value :: read) none)
  | some first =>
    if 0xdc00 ≤ value ∧ value < 0xe000 then
      some (.quoted (Char.ofNat (0x10000 + (first - 0xd800) * 0x400 + (value - 0xdc00)) :: read) none)
    else none

/-- A character between tokens, with the tokens found so far, last first. -/
def startToken (found : List Token) (char : Char) : List Token × Scan :=
  if char = '"' then (found, .quoted [] none)
  else if isBlank char then (found, .between)
  else
    match ofChar? char with
    | some token => (token :: found, .between)
    | none => (found, .bare [char])

def step : List Token × Scan → Char → Option (List Token × Scan)
  | (found, .between), char => some (startToken found char)
  | (found, .bare read), char =>
    if char = '"' ∨ isBlank char ∨ (ofChar? char).isSome then do
      let token ← ofBare? read.reverse
      return startToken (token :: found) char
    else some (found, .bare (char :: read))
  | (found, .quoted read none), char =>
    if char = '"' then some (.text (String.ofList read.reverse) :: found, .between)
    else if char = '\\' then some (found, .escaped read none)
    else if char.toNat < 0x20 then none
    else some (found, .quoted (char :: read) none)
  | (found, .quoted read (some lead)), char =>
    if char = '\\' then some (found, .escaped read (some lead)) else none
  | (found, .escaped read lead), char =>
    if char = 'u' then some (found, .unit read lead 0 0)
    else if lead.isSome then none
    else (unescape? char).map fun plain => (found, .quoted (plain :: read) none)
  | (found, .unit read lead digits value), char => do
    let digit ← hexDigit? char
    if digits < 3 then return (found, .unit read lead (digits + 1) (value * 16 + digit))
    return (found, ← Scan.unitDone? read lead (value * 16 + digit))

/-- The tokens found when a text ends; none inside of an unfinished token. -/
def finish? : List Token × Scan → Option (List Token)
  | (found, .between) => some found.reverse
  | (found, .bare read) => (ofBare? read.reverse).map fun token => (token :: found).reverse
  | _ => none

/-- The tokens of a text from some place on, with those found before it. -/
def scan? (state : List Token × Scan) (text : List Char) : Option (List Token) :=
  (text.foldlM step state).bind finish?

/-- The tokens of a text; none if a token is malformed or unfinished. -/
def ofText? (text : List Char) : Option (List Token) :=
  scan? ([], .between) text

end Token
end MarkdownTree.Json
