import PortableDdl.Json.Number
import PortableDdl.Json.TextUnit

/-!
# The tokens of a document

What a document is made of once the layout is gone. The characters are read one
by one; `Scanner` is what is known after some of them.
-/

namespace PortableDdl.Json

/-- A bracket, a sign or a value without parts. -/
inductive Token where
  | openList
  | closeList
  | openRecord
  | closeRecord
  | colon
  | comma
  | null
  | bool (b : Bool)
  /-- A number as it is written. -/
  | number (lexeme : String)
  /-- A text, if one is meant. -/
  | text (t : Option String)
deriving DecidableEq, Repr

/-- A token as it is written. -/
def Token.chars : Token → List Char
  | .openList => ['[']
  | .closeList => [']']
  | .openRecord => ['\x7b']
  | .closeRecord => ['\x7d']
  | .colon => [':']
  | .comma => [',']
  | .null => ['n', 'u', 'l', 'l']
  | .bool true => ['t', 'r', 'u', 'e']
  | .bool false => ['f', 'a', 'l', 's', 'e']
  | .number lexeme => lexeme.toList
  | .text t => '"' :: (textBody t ++ ['"'])

/-- The token of a bracket or a sign. -/
def signToken? (c : Char) : Option Token :=
  [.openList, .closeList, .openRecord, .closeRecord, .colon, .comma].find? (·.chars == [c])

/-- The token of a word. -/
def wordToken? (cs : List Char) : Option Token :=
  [.null, .bool true, .bool false].find? (·.chars == cs)

/-- Whether a character may stand between tokens. -/
def isLayout (c : Char) : Bool := c == ' ' || c == '\t' || c == '\n' || c == '\r'

/-- The token that the reading is in. What has been read of it stands with the
    latest first. -/
inductive ScanMode where
  | between
  | text (units : List TextUnit)
  | escape (units : List TextUnit)
  /-- In the digits of a code unit, of which some more follow the next one. -/
  | code (units : List TextUnit) (more value : Nat)
  | number (cs : List Char)
  | word (cs : List Char)
deriving DecidableEq, Repr

/-- The tokens before a place, and the one that the place is in. -/
structure Scanner where
  /-- The tokens that have been read, latest first. -/
  tokens : List Token
  mode : ScanMode
deriving DecidableEq, Repr

namespace Scanner

/-- Before the first character. -/
def start : Scanner := ⟨[], .between⟩

/-- The place behind one more token. -/
def emit (s : Scanner) (t : Token) : Scanner := ⟨t :: s.tokens, .between⟩

/-- A character outside any token: layout, or the first one of a token. -/
def enter (s : Scanner) (c : Char) : Option Scanner :=
  if isLayout c then some s
  else if c = '"' then some { s with mode := .text [] }
  else if startsNumber c then some { s with mode := .number [c] }
  else if c.isLower then some { s with mode := .word [c] }
  else (signToken? c).map s.emit

/-- The end of a number or a word, the only tokens that do not show their end
    themselves. -/
def settle (s : Scanner) : Option Scanner :=
  match s.mode with
  | .between => some s
  | .number cs =>
    if isNumber cs.reverse then some (s.emit (.number (String.ofList cs.reverse))) else none
  | .word cs => (wordToken? cs.reverse).map s.emit
  | _ => none

/-- One more character. -/
def step (s : Scanner) (c : Char) : Option Scanner :=
  match s.mode with
  | .between => s.enter c
  | .text us =>
    if c = '"' then some (s.emit (.text ((charsOfUnits? us.reverse).map String.ofList)))
    else if c = '\\' then some { s with mode := .escape us }
    else if c.toNat < 0x20 then none
    else some { s with mode := .text (.char c :: us) }
  | .escape us =>
    if c = 'u' then some { s with mode := .code us 3 0 }
    else (unescaped? c).map fun x => { s with mode := .text (.char x :: us) }
  | .code us 0 n =>
    (hexDigit? c).map fun d => { s with mode := .text (.ofCode (16 * n + d) :: us) }
  | .code us (k + 1) n =>
    (hexDigit? c).map fun d => { s with mode := .code us k (16 * n + d) }
  | .number cs =>
    if continuesNumber c then some { s with mode := .number (c :: cs) }
    else s.settle.bind (·.enter c)
  | .word cs =>
    if c.isLower then some { s with mode := .word (c :: cs) } else s.settle.bind (·.enter c)

end Scanner

/-- The tokens of a text, if it is made of tokens. -/
def tokens? (cs : List Char) : Option (List Token) :=
  ((cs.foldlM Scanner.step .start).bind Scanner.settle).map (·.tokens.reverse)

end PortableDdl.Json
