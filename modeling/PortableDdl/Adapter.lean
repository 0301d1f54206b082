import PortableDdl.Dialect
import PortableDdl.Sql.Statement
import PortableDdl.Text.Case

/-!
# Adapters

An adapter writes statements for one dialect under some settings. Here stand
its names: the case in which the database stores them, how they are quoted and
how a schema goes before them.
-/

namespace PortableDdl

open Sql

/-- What can be chosen whatever the dialect. -/
structure Settings where
  /-- The schema of names that are given without one. -/
  defaultSchema : Option String := none
  /-- Whether a foreign key says so where nothing is to happen. -/
  renderNoAction : Bool := true
deriving DecidableEq, Repr

/-- A dialect with settings. -/
structure Adapter where
  dialect : Dialect
  settings : Settings := {}
deriving DecidableEq, Repr

/-- The character around names, a grave accent in MySQL. -/
def Dialect.quoteChar : Dialect → Char
  | .mysql => '\x60'
  | _ => '"'

/-- A name in the case in which the database stores it when it is not quoted. -/
def Dialect.fold : Dialect → String → String
  | .derby, n => Text.upper n
  | .mysql, n => n
  | .oracle, n => Text.upper n
  | .postgres, n => Text.lower n

/-- The function for the current date and time. -/
def Dialect.timestampFunction : Dialect → String
  | .oracle => "SYSTIMESTAMP"
  | _ => "CURRENT_TIMESTAMP"

namespace Adapter

/-- An adapter with the usual settings. -/
def ofDialect (d : Dialect) : Adapter := { dialect := d }

/-- The same adapter with a default schema. -/
def withDefaultSchema (a : Adapter) (schema : String) : Adapter :=
  { a with settings := { a.settings with defaultSchema := some schema } }

/-- The same adapter, which says so or not where nothing is to happen. -/
def withNoAction (a : Adapter) (rendered : Bool) : Adapter :=
  { a with settings := { a.settings with renderNoAction := rendered } }

/-- The text of a statement. -/
def text (a : Adapter) (s : Statement) : String := s.text a.dialect.quoteChar

/-- A name, quoted. -/
def name (a : Adapter) (n : String) : Fragment := .name (a.dialect.fold n)

/-- Names with commas between them. -/
def nameList (a : Adapter) (names : List String) : Statement :=
  Statement.separated ", " (names.map fun n => [a.name n])

/-- The schema of a name: the given one or else the default. -/
def effectiveSchema (a : Adapter) (schema : Option String) : Option String :=
  schema.or a.settings.defaultSchema

/-- A name behind its schema, if there is one. -/
def qualifiedName (a : Adapter) (schema : Option String) (n : String) : Statement :=
  match a.effectiveSchema schema with
  | some s => [a.name s, .words ".", a.name n]
  | none => [a.name n]

/-- The name of a table. -/
def tableName (a : Adapter) (schema : Option String) (table : String) : Statement :=
  a.qualifiedName schema table

/-- The words before what is done to a table. -/
def alterTable (a : Adapter) (schema : Option String) (table : String) : Statement :=
  [.words "ALTER TABLE "] ++ a.tableName schema table ++ [.words " "]

/-- A statement that keeps others from writing to a table. -/
def lockTable (a : Adapter) (schema : Option String) (table : String) : Statement :=
  match a.dialect with
  | .mysql => [.words "LOCK TABLES "] ++ a.tableName schema table ++ [.words " WRITE"]
  | _ => [.words "LOCK TABLE "] ++ a.tableName schema table ++ [.words " IN EXCLUSIVE MODE"]

end Adapter

end PortableDdl
