import PortableDdl.Json.Value
import PortableDdl.Text.Decimal

/-!
# Taking documents apart

Reading a value as something in particular: a text, a number, one of several
words, a record with known names. Names that are not known are passed over,
known ones may not repeat; a list can stand for a record if its items are in
the order of the names.
-/

namespace PortableDdl.Json

namespace Value

/-- The text of a value. -/
def string? : Value → Option String
  | .text t => t
  | _ => none

/-- The text of a value that may be null. -/
def optionalString? : Value → Option (Option String)
  | .null => some none
  | v => v.string?.map some

/-- The texts of a list. -/
def strings? : Value → Option (List String)
  | .list items => items.mapM string?
  | _ => none

/-- The truth value of a value. -/
def bool? : Value → Option Bool
  | .bool b => some b
  | _ => none

/-- The 32-bit word of a value, which is written in digits alone. -/
def word32? : Value → Option UInt32
  | .number lexeme => Text.digits32? lexeme.toList
  | _ => none

/-- The 32-bit word of a value that may be null. -/
def optionalWord32? : Value → Option (Option UInt32)
  | .null => some none
  | v => v.word32?.map some

/-- The word of a value: a text, or a record with nothing under the word. -/
def word? : Value → Option String
  | .text t => t
  | .record [(t, .null)] => t
  | _ => none

/-- The value under a word, in a record of one member. -/
def tagged? : Value → Option (String × Value)
  | .record [(some tag, v)] => some (tag, v)
  | _ => none

end Value

/-- The value under a name, where it stands for the first time. -/
def lookup (members : List Member) (name : String) : Option Value :=
  (members.find? (·.1 == some name)).map (·.2)

/-- Whether every name in a record is a text, and the known ones stand at most
    once. -/
def isReadable (names : List String) (members : List Member) : Bool :=
  members.all (·.1.isSome) && names.all fun n => members.countP (·.1 == some n) ≤ 1

/-- The values of a record by their names. A list with at least as many items
    as asked for, and not more than there are names, is as good. -/
def fields? (names : List String) (least : Nat) : Value → Option (String → Option Value)
  | .record members => if isReadable names members then some (lookup members) else none
  | .list items =>
    if least ≤ items.length && items.length ≤ names.length then
      some fun n => (names.zip items).lookup n
    else none
  | _ => none

/-- The value of a field that may be missing, which is as good as null. -/
def orNull (field : Option Value) : Value := field.getD .null

end PortableDdl.Json
