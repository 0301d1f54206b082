import PortableDdl.Json.Token
import PortableDdl.Json.Value

/-!
# Reading documents

The tokens of a document are put together to a tree. The lists and records that
are still open wait on a stack, so that a document may be nested to any depth.
-/

namespace PortableDdl.Json

/-- A list or record that waits for a value inside it. Its parts stand with the
    latest first. -/
inductive Frame where
  /-- A list that waits for an item. -/
  | item (items : List Value)
  /-- A record that waits for the value of a name. -/
  | member (members : List Member) (name : Option String)

/-- What has been read of a document, and what may come next. -/
inductive Builder where
  /-- A value comes. -/
  | value (stack : List Frame)
  /-- The first item of a list comes, or its end. -/
  | firstItem (stack : List Frame)
  /-- A comma comes, or the end of a list. -/
  | afterItem (items : List Value) (stack : List Frame)
  /-- The first name of a record comes, or its end. -/
  | firstKey (stack : List Frame)
  /-- A name comes. -/
  | key (members : List Member) (stack : List Frame)
  /-- A colon comes. -/
  | colon (members : List Member) (name : Option String) (stack : List Frame)
  /-- A comma comes, or the end of a record. -/
  | afterMember (members : List Member) (stack : List Frame)
  /-- Nothing comes any more. -/
  | done (v : Value)

namespace Builder

/-- A value has been read, and goes where it was waited for. -/
def place (v : Value) : List Frame → Builder
  | [] => .done v
  | .item items :: stack => .afterItem (v :: items) stack
  | .member members name :: stack => .afterMember ((name, v) :: members) stack

/-- The first token of a value. -/
def enter (stack : List Frame) : Token → Option Builder
  | .null => some (place .null stack)
  | .bool b => some (place (.bool b) stack)
  | .number lexeme => some (place (.number lexeme) stack)
  | .text t => some (place (.text t) stack)
  | .openList => some (.firstItem stack)
  | .openRecord => some (.firstKey stack)
  | _ => none

/-- One more token. -/
def step : Builder → Token → Option Builder
  | .value stack, t => enter stack t
  | .firstItem stack, .closeList => some (place (.list []) stack)
  | .firstItem stack, t => enter (.item [] :: stack) t
  | .afterItem items stack, .comma => some (.value (.item items :: stack))
  | .afterItem items stack, .closeList => some (place (.list items.reverse) stack)
  | .firstKey stack, .closeRecord => some (place (.record []) stack)
  | .firstKey stack, .text name => some (.colon [] name stack)
  | .key members stack, .text name => some (.colon members name stack)
  | .colon members name stack, .colon => some (.value (.member members name :: stack))
  | .afterMember members stack, .comma => some (.key members stack)
  | .afterMember members stack, .closeRecord => some (place (.record members.reverse) stack)
  | _, _ => none

/-- The document, if nothing of it is missing. -/
def finish? : Builder → Option Value
  | .done v => some v
  | _ => none

end Builder

/-- The document that some tokens make up. -/
def ofTokens? (ts : List Token) : Option Value :=
  (ts.foldlM Builder.step (.value [])).bind Builder.finish?

/-- Reads a document. -/
def read? (s : String) : Option Value := (tokens? s.toList).bind ofTokens?

end PortableDdl.Json
