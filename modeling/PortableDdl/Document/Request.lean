import PortableDdl.Dialect
import PortableDdl.Json.Fields
import PortableDdl.Schema.CharacterSet
import PortableDdl.Schema.ColumnType
import PortableDdl.Schema.ForeignKey
import PortableDdl.Schema.Limit
import PortableDdl.Schema.Privilege

/-!
# Requests as documents

How dialects, column types, character sets, limits, privileges, actions and
foreign keys are read from documents and written to them.
-/

namespace PortableDdl

open Json (Value)

/-- A dialect as a document. -/
def Dialect.toJson (d : Dialect) : Value := .string d.word

/-- The dialect of a document. -/
def Dialect.ofJson? (v : Value) : Option Dialect := v.word?.bind Dialect.ofWord?

/-- A column type as a document. -/
def ColumnType.toJson (t : ColumnType) : Value := .string t.word

/-- The column type of a document. -/
def ColumnType.ofJson? (v : Value) : Option ColumnType := v.word?.bind ColumnType.ofWord?

/-- An action as a document. -/
def ForeignKeyAction.toJson (a : ForeignKeyAction) : Value := .string a.word

/-- The action of a document. -/
def ForeignKeyAction.ofJson? (v : Value) : Option ForeignKeyAction :=
  v.word?.bind ForeignKeyAction.ofWord?

/-- The action of a document that may be null. -/
def ForeignKeyAction.optionalOfJson? : Value → Option (Option ForeignKeyAction)
  | .null => some none
  | v => (ForeignKeyAction.ofJson? v).map some

/-- A character set as a document. -/
def CharacterSet.toJson : CharacterSet → Value
  | .unicode => .string "Unicode"
  | .named n => .ofMembers [("Named", .string n)]

/-- The character set of a document. -/
def CharacterSet.ofJson? (v : Value) : Option CharacterSet :=
  if v.word? = some "Unicode" then some .unicode
  else
    match v.tagged? with
    | some ("Named", n) => n.string?.map .named
    | _ => none

/-- A number as a document. -/
def numberJson (n : UInt32) : Value := .number (Text.decimal n)

/-- A limit as a document. -/
def Limit.toJson : Limit → Value
  | .length n => .ofMembers [("Length", numberJson n)]
  | .precision p s =>
    .ofMembers [("Precision",
      .ofMembers [("precision", numberJson p), ("scale", s.elim .null numberJson)])]

/-- The precision of a document. -/
def Limit.precisionOfJson? (v : Value) : Option Limit := do
  let field ← Json.fields? ["precision", "scale"] 2 v
  let digits ← (field "precision").bind Value.word32?
  let scale ← (Json.orNull (field "scale")).optionalWord32?
  return .precision digits scale

/-- The limit of a document. -/
def Limit.ofJson? (v : Value) : Option Limit :=
  match v.tagged? with
  | some ("Length", n) => n.word32?.map .length
  | some ("Precision", p) => Limit.precisionOfJson? p
  | _ => none

namespace Privilege

/-- A privilege as a document. -/
def toJson : Privilege → Value
  | .onTable r => .ofMembers [("kind", .string r.word)]
  | .onColumns r cs => .ofMembers [("kind", .string r.word), ("columns", .strings cs)]

/-- The privilege of a kind, with the columns of a document. Where columns make
    no sense, null may stand for them. -/
def ofKind? (kind : String) (columns : Option Value) : Option Privilege :=
  match ColumnRight.ofWord? kind with
  | some r => (columns.bind Value.strings?).map (.onColumns r)
  | none =>
    match TableRight.ofWord? kind, Json.orNull columns with
    | some r, .null => some (.onTable r)
    | _, _ => none

/-- The kind of a privilege. In a list it is a plain text, in a record any form
    of a word. -/
def kind? (privilege kind : Value) : Option String :=
  match privilege with
  | .list _ => kind.string?
  | _ => kind.word?

/-- The privilege of a document. -/
def ofJson? (v : Value) : Option Privilege := do
  let field ← Json.fields? ["kind", "columns"] 2 v
  let kind ← (field "kind").bind (kind? v)
  ofKind? kind (field "columns")

end Privilege

namespace ForeignKey

/-- The names of the parts of a foreign key, in the order in which they stand. -/
def fieldNames : List String :=
  ["name", "schema", "table", "columns", "references_schema", "references_table",
   "references_columns", "on_delete", "on_update"]

/-- A foreign key as a document. -/
def toJson (k : ForeignKey) : Value :=
  .ofMembers
    [("name", .string k.name), ("schema", .optionalString k.schema), ("table", .string k.table),
     ("columns", .strings k.columns), ("references_schema", .optionalString k.referencesSchema),
     ("references_table", .string k.referencesTable),
     ("references_columns", .strings k.referencesColumns),
     ("on_delete", k.onDelete.elim .null ForeignKeyAction.toJson),
     ("on_update", k.onUpdate.elim .null ForeignKeyAction.toJson)]

/-- The foreign key of a document. -/
def ofJson? (v : Value) : Option ForeignKey := do
  let field ← Json.fields? fieldNames fieldNames.length v
  let name ← (field "name").bind Value.string?
  let schema ← (Json.orNull (field "schema")).optionalString?
  let table ← (field "table").bind Value.string?
  let columns ← (field "columns").bind Value.strings?
  let referencesSchema ← (Json.orNull (field "references_schema")).optionalString?
  let referencesTable ← (field "references_table").bind Value.string?
  let referencesColumns ← (field "references_columns").bind Value.strings?
  let onDelete ← ForeignKeyAction.optionalOfJson? (Json.orNull (field "on_delete"))
  let onUpdate ← ForeignKeyAction.optionalOfJson? (Json.orNull (field "on_update"))
  return { name, schema, table, columns, referencesSchema, referencesTable, referencesColumns,
           onDelete, onUpdate }

end ForeignKey

end PortableDdl
