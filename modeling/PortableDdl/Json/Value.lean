/-!
# Documents

A document as a tree. Nothing of its text is lost but the layout and the way
in which characters are escaped: members keep their order and may repeat, and
a number keeps its digits.
-/

namespace PortableDdl.Json

/-- A document or a part of one. A text is missing where the document escapes
    half of a surrogate pair without the other half, so that no text is meant. -/
inductive Value where
  | null
  | bool (b : Bool)
  /-- A number as it is written. -/
  | number (lexeme : String)
  | text (t : Option String)
  | list (items : List Value)
  | record (members : List (Option String × Value))
deriving Repr

/-- A value under a name. -/
abbrev Member := Option String × Value

namespace Value

/-- A text that is there. -/
def string (s : String) : Value := .text (some s)

/-- Texts in a row. -/
def strings (ss : List String) : Value := .list (ss.map string)

/-- A text, or nothing. -/
def optionalString (s : Option String) : Value := s.elim .null string

/-- A record of members with the given names. -/
def ofMembers (ms : List (String × Value)) : Value :=
  .record (ms.map fun m => (some m.1, m.2))

end Value

end PortableDdl.Json
