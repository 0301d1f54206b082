import PortableDdl.Sql.Statement
import PortableDdl.Text.Cut

/-!
# MySQL accounts

Those who get a privilege in MySQL are a user and a host, or a user of any
host, written in the form `user@host`. Each part is a bare name, or any text
between quotes that does not hold the quote.
-/

namespace PortableDdl

open Sql

/-- A user, and the host from which it comes. -/
structure Account where
  user : String
  /-- The host, if not any. -/
  host : Option String
deriving DecidableEq, Repr

namespace Account

/-- Whether a part of an account may be wrapped in a character. -/
def isQuote (c : Char) : Bool := c == '\'' || c == '\x60' || c == '"'

/-- Whether a character may stand in a bare name. -/
def isBare (c : Char) : Bool :=
  c.isAlphanum || ['_', '$', '.', '-', '%', ':', '/'].contains c

/-- The text that a part of an account stands for. -/
def part? : List Char → Option (List Char)
  | [] => none
  | c :: rest =>
    if isQuote c && rest.getLast? == some c then
      if rest.dropLast.contains c then none else some rest.dropLast
    else if isBare c && rest.all isBare then some (c :: rest)
    else none

/-- Reads an account. Its host stands behind the last at sign. -/
def parse? (s : String) : Option Account :=
  match Text.cutLast? '@' s.toList with
  | some (user, host) => do
    let u ← part? user
    let h ← part? host
    return ⟨String.ofList u, some (String.ofList h)⟩
  | none => (part? s.toList).map fun u => ⟨String.ofList u, none⟩

/-- An account as literals. -/
def statement (a : Account) : Statement :=
  .literal a.user :: match a.host with
    | some h => [.words "@", .literal h]
    | none => []

end Account

end PortableDdl
