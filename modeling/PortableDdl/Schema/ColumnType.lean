/-!
# Column types

The types that a request may ask for, whatever the database calls them.
-/

namespace PortableDdl

/-- A column type without regard to a database. -/
inductive ColumnType where
  | bigint
  | blob
  | boolean
  | char
  | decimal
  | integer
  | smallint
  | timestamp
  | varbinary
  | varchar
deriving DecidableEq, Repr

namespace ColumnType

/-- Every column type. -/
def all : List ColumnType :=
  [.bigint, .blob, .boolean, .char, .decimal, .integer, .smallint, .timestamp, .varbinary, .varchar]

/-- The word for a column type. -/
def word : ColumnType → String
  | .bigint => "bigint"
  | .blob => "blob"
  | .boolean => "boolean"
  | .char => "char"
  | .decimal => "decimal"
  | .integer => "integer"
  | .smallint => "smallint"
  | .timestamp => "timestamp"
  | .varbinary => "varbinary"
  | .varchar => "varchar"

/-- The column type of a word. -/
def ofWord? (w : String) : Option ColumnType := all.find? (·.word == w)

/-- Whether a column of the type holds characters. -/
def isText : ColumnType → Bool
  | .char | .varchar => true
  | _ => false

end ColumnType

end PortableDdl
