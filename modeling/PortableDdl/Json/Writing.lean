import PortableDdl.Json.Token
import PortableDdl.Json.Value

/-!
# Writing documents

A document is written without layout, its parts in their order.
-/

namespace PortableDdl.Json

mutual

/-- The tokens of a document. -/
def Value.tokens : Value → List Token
  | .null => [.null]
  | .bool b => [.bool b]
  | .number lexeme => [.number lexeme]
  | .text t => [.text t]
  | .list items => .openList :: (itemTokens items ++ [.closeList])
  | .record members => .openRecord :: (memberTokens members ++ [.closeRecord])

/-- The tokens of the items of a list. -/
def itemTokens : List Value → List Token
  | [] => []
  | v :: rest => v.tokens ++ if rest.isEmpty then [] else .comma :: itemTokens rest

/-- The tokens of the members of a record. -/
def memberTokens : List Member → List Token
  | [] => []
  | (key, v) :: rest =>
    .text key :: .colon :: (v.tokens ++ if rest.isEmpty then [] else .comma :: memberTokens rest)

end

/-- The text of a document. -/
def Value.write (v : Value) : String := String.ofList (v.tokens.flatMap Token.chars)

end PortableDdl.Json
