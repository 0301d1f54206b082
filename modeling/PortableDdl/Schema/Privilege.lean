/-!
# Privileges

What may be granted on a table. Four privileges can be restricted to columns,
the others always mean the whole table.
-/

namespace PortableDdl

/-- A privilege on whole tables only. -/
inductive TableRight where
  | all
  | alter
  | delete
  | index
  | trigger
  | usage
deriving DecidableEq, Repr

/-- A privilege that can be restricted to columns. -/
inductive ColumnRight where
  | insert
  | references
  | select
  | update
deriving DecidableEq, Repr

/-- A privilege, with columns where it can have some. -/
inductive Privilege where
  | onTable (right : TableRight)
  /-- On the given columns, or on the whole table if there are none. -/
  | onColumns (right : ColumnRight) (columns : List String)
deriving DecidableEq, Repr

namespace TableRight

/-- Every privilege on whole tables. -/
def every : List TableRight := [.all, .alter, .delete, .index, .trigger, .usage]

/-- The word for a privilege. -/
def word : TableRight → String
  | .all => "all"
  | .alter => "alter"
  | .delete => "delete"
  | .index => "index"
  | .trigger => "trigger"
  | .usage => "usage"

/-- The keyword of a privilege. -/
def keyword : TableRight → String
  | .all => "ALL PRIVILEGES"
  | .alter => "ALTER"
  | .delete => "DELETE"
  | .index => "INDEX"
  | .trigger => "TRIGGER"
  | .usage => "USAGE"

/-- The privilege of a word. -/
def ofWord? (w : String) : Option TableRight := every.find? (·.word == w)

end TableRight

namespace ColumnRight

/-- Every privilege that can be restricted to columns. -/
def every : List ColumnRight := [.insert, .references, .select, .update]

/-- The word for a privilege. -/
def word : ColumnRight → String
  | .insert => "insert"
  | .references => "references"
  | .select => "select"
  | .update => "update"

/-- The keyword of a privilege. -/
def keyword : ColumnRight → String
  | .insert => "INSERT"
  | .references => "REFERENCES"
  | .select => "SELECT"
  | .update => "UPDATE"

/-- The privilege of a word. -/
def ofWord? (w : String) : Option ColumnRight := every.find? (·.word == w)

end ColumnRight

namespace Privilege

/-- To read the whole table. -/
def select : Privilege := .onColumns .select []

/-- To read the given columns. -/
def selectColumns (columns : List String) : Privilege := .onColumns .select columns

/-- The keyword of a privilege. -/
def keyword : Privilege → String
  | .onTable r => r.keyword
  | .onColumns r _ => r.keyword

/-- The columns that a privilege is restricted to. -/
def columns : Privilege → List String
  | .onTable _ => []
  | .onColumns _ cs => cs

/-- Whether a privilege is restricted to some columns. -/
def isColumnScoped (p : Privilege) : Bool := !p.columns.isEmpty

end Privilege

end PortableDdl
