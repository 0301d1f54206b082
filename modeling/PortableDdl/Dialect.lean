/-!
# Dialects

The database products that statements are written for.
-/

namespace PortableDdl

/-- A database product. -/
inductive Dialect where
  | derby
  | mysql
  | oracle
  | postgres
deriving DecidableEq, Repr

namespace Dialect

/-- Every dialect. -/
def all : List Dialect := [.derby, .mysql, .oracle, .postgres]

/-- The word for a dialect in requests and configurations. -/
def word : Dialect → String
  | .derby => "derby"
  | .mysql => "mysql"
  | .oracle => "oracle"
  | .postgres => "postgres"

/-- The name under which a product reports. -/
def productName : Dialect → String
  | .derby => "derby"
  | .mysql => "mysql"
  | .oracle => "oracle"
  | .postgres => "postgresql"

/-- The dialect of a word. -/
def ofWord? (w : String) : Option Dialect := all.find? (·.word == w)

end Dialect

end PortableDdl
