/-!
# Foreign keys

A constraint between two tables, and what happens to the rows that refer to a
row that goes away or changes.
-/

namespace PortableDdl

/-- What happens to referring rows. -/
inductive ForeignKeyAction where
  | cascade
  /-- They forbid it, at once. -/
  | restrict
  | setNull
  /-- They forbid it at the end of the statement. -/
  | noAction
deriving DecidableEq, Repr

namespace ForeignKeyAction

/-- Every action. -/
def all : List ForeignKeyAction := [.cascade, .restrict, .setNull, .noAction]

/-- The word for an action in documents. -/
def word : ForeignKeyAction → String
  | .cascade => "cascade"
  | .restrict => "restrict"
  | .setNull => "set_null"
  | .noAction => "no_action"

/-- The action of a word. -/
def ofWord? (w : String) : Option ForeignKeyAction := all.find? (·.word == w)

/-- The keywords of an action. -/
def sql : ForeignKeyAction → String
  | .cascade => "CASCADE"
  | .restrict => "RESTRICT"
  | .setNull => "SET NULL"
  | .noAction => "NO ACTION"

end ForeignKeyAction

/-- The event on the row referred to that a clause is about. -/
inductive ReferentialEvent where
  | delete
  | update
deriving DecidableEq, Repr

/-- The keyword of an event. -/
def ReferentialEvent.sql : ReferentialEvent → String
  | .delete => "DELETE"
  | .update => "UPDATE"

/-- A foreign key to add to a table. -/
structure ForeignKey where
  name : String
  /-- The schema of the referring table, if not the default one. -/
  schema : Option String := none
  table : String
  columns : List String
  /-- The schema of the table referred to, if not that of the referring one. -/
  referencesSchema : Option String := none
  referencesTable : String
  referencesColumns : List String
  onDelete : Option ForeignKeyAction := none
  onUpdate : Option ForeignKeyAction := none
deriving DecidableEq, Repr

end PortableDdl
