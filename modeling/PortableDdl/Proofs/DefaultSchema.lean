import PortableDdl.Adapter.Column
import PortableDdl.Adapter.Grant
import PortableDdl.Adapter.Index
import PortableDdl.Proofs.ForeignKeyText

/-!
# The default schema

Every operation in a schema settles first which schema is in effect, and never
looks at the default again. An adapter without a default does the same when it
is told the schema in effect (`statement_resolved`), so that a default is as good
as that schema in every call, and is of no account where a schema is given.
-/

namespace PortableDdl
open Sql

/-- What can be asked for in a schema, without the schema. -/
inductive SchemaOperation where
  | tableName (table : String)
  | indexName (index : String)
  | addColumn (table column : String) (f : ColumnDefinition)
  | alterColumn (table column : String) (f : ColumnDefinition)
  | dropColumn (table column : String)
  | createIndex (table index : String) (columns : List String) (unique : Bool)
  | dropIndex (table index : String)
  /-- The schema takes the place of the one that the key has. -/
  | addForeignKey (key : ForeignKey)
  | dropForeignKey (table key : String)
  | lock (table : String)
  | grant (table : String) (grantees : List String) (privileges : List Privilege)
  | revoke (table : String) (grantees : List String) (privileges : List Privilege)
deriving DecidableEq, Repr

namespace SchemaOperation

/-- The statement of an operation, or why there is none, with the events. -/
def statement (a : Adapter) (schema : Option String) : SchemaOperation → Logged (Except DdlError Statement)
  | .tableName t => ⟨.ok (a.tableName schema t),[]⟩
  | .indexName i => ⟨.ok (a.indexName schema i),[]⟩
  | .addColumn t c f => ⟨a.addColumn schema t c f,[]⟩
  | .alterColumn t c f => ⟨a.alterColumn schema t c f,[]⟩
  | .dropColumn t c => ⟨.ok (a.dropColumn schema t c),[]⟩
  | .createIndex t i columns unique => ⟨a.createIndex schema t i columns unique,[]⟩
  | .dropIndex t i => ⟨.ok (a.dropIndex schema t i),[]⟩
  | .addForeignKey k => ⟨a.addForeignKey { k with schema },[]⟩
  | .dropForeignKey t k => ⟨.ok (a.dropForeignKey schema t k),[]⟩
  | .lock t => ⟨.ok (a.lockTable schema t),[]⟩
  | .grant t grantees ps => a.grant schema t grantees ps
  | .revoke t grantees ps => a.revoke schema t grantees ps

/-- All that an operation gives: its text or its error, and the events. -/
def perform (a : Adapter) (schema : Option String) (op : SchemaOperation) : Logged (Except DdlError String) :=
  (op.statement a schema).map fun s => s.map a.text

end SchemaOperation

namespace Adapter

/-- The same adapter where names without a schema stay so. Whatever looks at the
    dialect and at NO ACTION alone is the same in it by definition. -/
def withoutDefault (a : Adapter) : Adapter := { a with settings := { a.settings with defaultSchema := none } }

variable (a : Adapter) (schema : Option String)

theorem effectiveSchema_withoutDefault : a.withoutDefault.effectiveSchema schema = schema := Option.or_none

theorem qualifiedName_resolved (n : String) :
    a.qualifiedName schema n = a.withoutDefault.qualifiedName (a.effectiveSchema schema) n := by
  rw [qualifiedName,qualifiedName,effectiveSchema_withoutDefault]
  rfl

theorem tableName_resolved (table : String) :
    a.tableName schema table = a.withoutDefault.tableName (a.effectiveSchema schema) table :=
  a.qualifiedName_resolved schema table

theorem alterTable_resolved (table : String) :
    a.alterTable schema table = a.withoutDefault.alterTable (a.effectiveSchema schema) table := by
  rw [alterTable,alterTable,tableName_resolved]

theorem indexName_resolved (index : String) :
    a.indexName schema index = a.withoutDefault.indexName (a.effectiveSchema schema) index := by
  unfold indexName
  rw [qualifiedName_resolved]
  rfl

theorem createIndex_resolved (table index : String) (columns : List String) (unique : Bool) :
    a.createIndex schema table index columns unique =
      a.withoutDefault.createIndex (a.effectiveSchema schema) table index columns unique := by
  unfold createIndex createdIndexName
  rw [indexName_resolved,tableName_resolved]
  rfl

theorem dropIndex_resolved (table index : String) :
    a.dropIndex schema table index = a.withoutDefault.dropIndex (a.effectiveSchema schema) table index := by
  unfold dropIndex
  rw [indexName_resolved,tableName_resolved]
  rfl

theorem addColumn_resolved (table column : String) (f : ColumnDefinition) :
    a.addColumn schema table column f = a.withoutDefault.addColumn (a.effectiveSchema schema) table column f := by
  unfold addColumn
  rw [alterTable_resolved]
  rfl

theorem alterColumn_resolved (table column : String) (f : ColumnDefinition) :
    a.alterColumn schema table column f = a.withoutDefault.alterColumn (a.effectiveSchema schema) table column f := by
  unfold alterColumn
  rw [alterTable_resolved]
  rfl

/-- The schema in effect also stands in for a missing schema of the table that
    is referred to. -/
theorem addForeignKey_resolved (k : ForeignKey) :
    a.addForeignKey { k with schema } = a.withoutDefault.addForeignKey { k with schema := a.effectiveSchema schema } := by
  have referenced : a.tableName (k.referencesSchema.or schema) k.referencesTable =
      a.withoutDefault.tableName (k.referencesSchema.or (a.effectiveSchema schema)) k.referencesTable := by
    rw [tableName_resolved,effectiveSchema,effectiveSchema,Option.or_assoc]
  unfold addForeignKey
  rw [referenced,alterTable_resolved]
  rfl

theorem lockTable_resolved (table : String) :
    a.lockTable schema table = a.withoutDefault.lockTable (a.effectiveSchema schema) table := by
  unfold lockTable
  rw [tableName_resolved]
  rfl

theorem changePrivileges_resolved (verb : GrantVerb) (table : String) (grantees : List String) (ps : List Privilege) :
    a.changePrivileges verb schema table grantees ps =
      a.withoutDefault.changePrivileges verb (a.effectiveSchema schema) table grantees ps := by
  unfold changePrivileges privilegeStatement
  rw [tableName_resolved]
  rfl

end Adapter

namespace SchemaOperation

/-- An operation needs no default once it is told the schema in effect. -/
theorem statement_resolved (a : Adapter) (schema : Option String) (op : SchemaOperation) :
    op.statement a schema = op.statement a.withoutDefault (a.effectiveSchema schema) := by
  cases op with
  | tableName t => rw [statement,statement,a.tableName_resolved]
  | indexName i => rw [statement,statement,a.indexName_resolved]
  | addColumn t c f => rw [statement,statement,a.addColumn_resolved]
  | alterColumn t c f => rw [statement,statement,a.alterColumn_resolved]
  | dropColumn t c => rw [statement,statement,Adapter.dropColumn,a.alterTable_resolved]; rfl
  | createIndex t i columns unique => rw [statement,statement,a.createIndex_resolved]
  | dropIndex t i => rw [statement,statement,a.dropIndex_resolved]
  | addForeignKey k => rw [statement,statement,a.addForeignKey_resolved]
  | dropForeignKey t k => rw [statement,statement,Adapter.dropForeignKey,a.alterTable_resolved]; rfl
  | lock t => rw [statement,statement,a.lockTable_resolved]
  | grant t grantees ps => exact a.changePrivileges_resolved schema .grant t grantees ps
  | revoke t grantees ps => exact a.changePrivileges_resolved schema .revoke t grantees ps

/-- Two calls in one schema give the same if nothing but the default differs. -/
theorem perform_eq_of_effectiveSchema {d : Dialect} {noAction : Bool} {x y schema other : Option String}
    (same : schema.or x = other.or y) (op : SchemaOperation) :
    op.perform ⟨d,⟨x,noAction⟩⟩ schema = op.perform ⟨d,⟨y,noAction⟩⟩ other := by
  have resolved : op.statement ⟨d,⟨x,noAction⟩⟩ schema = op.statement ⟨d,⟨y,noAction⟩⟩ other := by
    rw [statement_resolved ⟨d,⟨x,noAction⟩⟩,statement_resolved ⟨d,⟨y,noAction⟩⟩]
    exact congrArg (op.statement ⟨d,⟨none,noAction⟩⟩) same
  rw [perform,perform,resolved]
  -- The text of a statement needs the dialect only.
  rfl

/-- A default schema is the schema that is left out: with it a call without a
    schema gives the text, the error and the events of a call with that schema,
    and in such a call no default is of any account. Then both tables of a foreign
    key that names no schema for the second one are in the schema of the call. -/
theorem default_schema_is_schema_left_out (d : Dialect) (noAction : Bool) (s : String) (op : SchemaOperation) :
    (∀ any, op.perform ⟨d,⟨some s,noAction⟩⟩ none = op.perform ⟨d,⟨any,noAction⟩⟩ (some s)) ∧
    (∀ one any, op.perform ⟨d,⟨one,noAction⟩⟩ (some s) = op.perform ⟨d,⟨any,noAction⟩⟩ (some s)) ∧
    ∀ any (k : ForeignKey) (st : Statement), k.referencesSchema = none →
      Adapter.addForeignKey ⟨d,⟨any,noAction⟩⟩ { k with schema := some s } = .ok st →
      ∃ read, Reader.foreignKey.all d (Adapter.text ⟨d,⟨any,noAction⟩⟩ st) = some read ∧
        read.schema = some (d.fold s) ∧ read.referencesSchema = some (d.fold s) := by
  refine ⟨?_,?_,?_⟩
  · intro any
    have same : (none : Option String).or (some s) = (some s).or any := rfl
    exact perform_eq_of_effectiveSchema same op
  · intro one any
    have same : (some s).or one = (some s).or any := rfl
    exact perform_eq_of_effectiveSchema same op
  · intro any k st unsaid written
    refine ⟨_,foreignKey_read written,rfl,?_⟩
    simp only [Adapter.foreignKeyReading,unsaid,Option.none_or,Option.some_or,Option.map_some]

example : ((dropIndex "t" "i").perform ⟨.mysql,⟨some "s",true⟩⟩ none).value =
    .ok "DROP INDEX \x60i\x60 ON \x60s\x60.\x60t\x60" := by
  decide +kernel

end SchemaOperation

end PortableDdl
