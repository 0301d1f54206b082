import PortableDdl.Adapter
import PortableDdl.Error

/-!
# Foreign keys of a dialect

The clauses on what happens to referring rows, and the statements that add a
foreign key to a table and drop it.
-/

namespace PortableDdl

open Sql

/-- Whether an action may stand in a clause on changed keys. Oracle has no such
    clause and only takes what it does anyway. -/
def Dialect.acceptsOnUpdate : Dialect → ForeignKeyAction → Bool
  | .oracle, action => action == .restrict
  | .derby, action => action != .cascade && action != .setNull
  | _, _ => true

namespace Adapter

/-- Whether an action is left out, because the database does it anyway. -/
def omitsAction (a : Adapter) (action : ForeignKeyAction) : Bool :=
  (action == .noAction && !a.settings.renderNoAction) ||
    (a.dialect == .oracle && action == .restrict)

/-- The words of a clause, if there is something to say. -/
def actionClause? (a : Adapter) (event : ReferentialEvent) (action : Option ForeignKeyAction) :
    Option String :=
  match action with
  | some x => if a.omitsAction x then none else some ("ON " ++ event.sql ++ " " ++ x.sql)
  | none => none

/-- The clause on rows that go away. -/
def onDelete (a : Adapter) (action : Option ForeignKeyAction) : Option String :=
  a.actionClause? .delete action

/-- The clause on keys that change, if the dialect takes the action. -/
def onUpdate (a : Adapter) (action : Option ForeignKeyAction) : Except DdlError (Option String) :=
  match action.filter fun x => !a.dialect.acceptsOnUpdate x with
  | some x => .error (.unsupportedForeignKeyAction a.dialect .update x)
  | none => .ok (a.actionClause? .update action)

/-- A clause behind what it belongs to. -/
def trailing (clause : Option String) : Statement :=
  match clause with
  | some c => [.words (" " ++ c)]
  | none => []

/-- Whether two lists of columns can refer to each other. -/
def columnsMatch (columns referenced : List String) : Bool :=
  !columns.isEmpty && columns.length == referenced.length

/-- A statement that adds a foreign key. The table referred to is by default in
    the schema of the referring one. -/
def addForeignKey (a : Adapter) (k : ForeignKey) : Except DdlError Statement :=
  if columnsMatch k.columns k.referencesColumns then
    (a.onUpdate k.onUpdate).map fun onUpdate =>
      a.alterTable k.schema k.table ++
      [.words "ADD CONSTRAINT ", a.name k.name, .words " FOREIGN KEY ("] ++ a.nameList k.columns ++
      [.words ") REFERENCES "] ++ a.tableName (k.referencesSchema.or k.schema) k.referencesTable ++
      [.words " ("] ++ a.nameList k.referencesColumns ++ [.words ")"] ++
      trailing (a.onDelete k.onDelete) ++ trailing onUpdate
  else .error (.invalidConfiguration (.unmatchedColumns k.name))

/-- A statement that drops a foreign key. -/
def dropForeignKey (a : Adapter) (schema : Option String) (table key : String) : Statement :=
  a.alterTable schema table ++
    [.words (if a.dialect = .mysql then "DROP FOREIGN KEY " else "DROP CONSTRAINT "), a.name key]

end Adapter

end PortableDdl
