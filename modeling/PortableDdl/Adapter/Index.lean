import PortableDdl.Adapter
import PortableDdl.Error

/-!
# Indexes

Making and dropping an index. In MySQL an index belongs to its table, in
PostgreSQL it is made in the schema of its table; elsewhere it has a schema of
its own.
-/

namespace PortableDdl

open Sql

/-- Whether an index is named with its schema where it is made. -/
def Dialect.qualifiesCreatedIndex : Dialect → Bool
  | .postgres => false
  | _ => true

namespace Adapter

/-- The name of an index. -/
def indexName (a : Adapter) (schema : Option String) (index : String) : Statement :=
  match a.dialect with
  | .mysql => [a.name index]
  | _ => a.qualifiedName schema index

/-- The name of an index that is being made. -/
def createdIndexName (a : Adapter) (schema : Option String) (index : String) : Statement :=
  if a.dialect.qualifiesCreatedIndex then a.indexName schema index else [a.name index]

/-- A statement that makes an index on at least one column. -/
def createIndex (a : Adapter) (schema : Option String) (table index : String)
    (columns : List String) (unique : Bool) : Except DdlError Statement :=
  if columns.isEmpty then .error (.invalidConfiguration (.indexWithoutColumns index))
  else .ok <|
    [.words (if unique then "CREATE UNIQUE INDEX " else "CREATE INDEX ")] ++
      a.createdIndexName schema index ++ [.words " ON "] ++ a.tableName schema table ++
      [.words " ("] ++ a.nameList columns ++ [.words ")"]

/-- A statement that drops an index. -/
def dropIndex (a : Adapter) (schema : Option String) (table index : String) : Statement :=
  let owner := if a.dialect = .mysql then [.words " ON "] ++ a.tableName schema table else []
  [.words "DROP INDEX "] ++ a.indexName schema index ++ owner

end Adapter

end PortableDdl
