import PortableDdl.Adapter
import PortableDdl.Column.Alteration

/-!
# Columns of a table

Statements that add a column to a table, change it and drop it. MySQL and
Oracle change a column by writing it anew; PostgreSQL and Derby name each
alteration, the one in a single statement, the other in one statement for each.
-/

namespace PortableDdl

open Sql

/-- Whether a dialect enforces conditions on values. -/
def Dialect.supportsChecks : Dialect → Bool
  | .mysql => false
  | _ => true

/-- How a dialect words the alterations of a column. -/
structure AlterationWords where
  setType : String
  forbidNull : String
  allowNull : String
  setDefault : String

/-- The words of PostgreSQL. -/
def AlterationWords.postgres : AlterationWords :=
  ⟨"TYPE ", "SET NOT NULL", "DROP NOT NULL", "SET DEFAULT "⟩

/-- The words of Derby. -/
def AlterationWords.derby : AlterationWords :=
  ⟨"SET DATA TYPE ", "NOT NULL", "NULL", "DEFAULT "⟩

/-- An alteration of a column in the words of a dialect. -/
def Alteration.action (w : AlterationWords) (column : Fragment) : Alteration → Statement
  | .setType t => [.words "ALTER COLUMN ", column, .words (" " ++ w.setType ++ t)]
  | .forbidNull => [.words "ALTER COLUMN ", column, .words (" " ++ w.forbidNull)]
  | .allowNull => [.words "ALTER COLUMN ", column, .words (" " ++ w.allowNull)]
  | .setDefault v => [.words "ALTER COLUMN ", column, .words (" " ++ w.setDefault ++ v)]
  | .dropDefault => [.words "ALTER COLUMN ", column, .words " DROP DEFAULT"]
  | .addPrimaryKey => [.words "ADD PRIMARY KEY (", column, .words ")"]
  | .addUnique => [.words "ADD UNIQUE (", column, .words ")"]
  | .addCheck c => [.words ("ADD CHECK (" ++ c ++ ")")]

namespace Adapter

/-- Refuses a condition where it would not be enforced. -/
def refuseCheck (a : Adapter) (d : ColumnDefinition) : Except DdlError Unit :=
  if d.check.isSome && !a.dialect.supportsChecks then .error (.unsupportedCheck a.dialect) else .ok ()

/-- A column with its name. -/
def column (a : Adapter) (name : String) (d : ColumnDefinition) : Except DdlError Statement := do
  a.refuseCheck d
  let t ← d.text
  return [a.name name, .words (" " ++ t)]

/-- A statement that adds a column to a table. -/
def addColumn (a : Adapter) (schema : Option String) (table name : String)
    (d : ColumnDefinition) : Except DdlError Statement :=
  (a.column name d).map fun c =>
    a.alterTable schema table ++
      [.words (if a.dialect = .oracle then "ADD " else "ADD COLUMN ")] ++ c

/-- The statements that make a column what a definition says. -/
def alterColumn (a : Adapter) (schema : Option String) (table name : String)
    (d : ColumnDefinition) : Except DdlError Statement :=
  let header := a.alterTable schema table
  match a.dialect with
  | .mysql => (a.column name d).map fun c => header ++ [.words "MODIFY COLUMN "] ++ c
  | .oracle => (a.column name d).map fun c => header ++ [.words "MODIFY ("] ++ c ++ [.words ")"]
  | .postgres => do
    a.refuseCheck d
    let xs ← d.alterations
    return header ++ Statement.separated ", " (xs.map (Alteration.action .postgres (a.name name)))
  | .derby => do
    a.refuseCheck d
    let xs ← d.alterations
    return Statement.separated ";\n"
      (xs.map fun x => header ++ Alteration.action .derby (a.name name) x)

/-- A statement that drops a column of a table. -/
def dropColumn (a : Adapter) (schema : Option String) (table name : String) : Statement :=
  a.alterTable schema table ++ [.words "DROP COLUMN ", a.name name]

end Adapter

end PortableDdl
