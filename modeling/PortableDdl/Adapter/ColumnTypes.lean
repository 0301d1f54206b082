import PortableDdl.Adapter
import PortableDdl.Column.Definition
import PortableDdl.Event
import PortableDdl.Schema.CharacterSet

/-!
# Column types of a dialect

What each dialect calls a column type, what the type takes, and what becomes
of a request for a character set.
-/

namespace PortableDdl

/-- A request for a character set that is given up, and why. -/
def ignoredCharacterSet (name reason : String) : Event :=
  .warn ("Ignoring character set '" ++ name ++ "': " ++ reason)

/-- The encoding that a dialect gives to a request. Only MySQL honours a
    character set by name. -/
def Dialect.textEncoding : Dialect → Option CharacterSet → Logged TextEncoding
  | .mysql, none => ⟨.databaseDefault, []⟩
  | .mysql, some .unicode => ⟨.explicit "utf8mb4", []⟩
  | .mysql, some (.named n) => ⟨.explicit n, []⟩
  | .oracle, some .unicode => ⟨.national, []⟩
  | .oracle, some (.named n) =>
    ⟨.databaseDefault,
      [ignoredCharacterSet n "oracle only supports the database default or Unicode"]⟩
  | .postgres, some .unicode =>
    ⟨.databaseDefault, [.debug "postgresql: Unicode columns use the database encoding"]⟩
  | .postgres, some (.named n) =>
    ⟨.databaseDefault, [ignoredCharacterSet n "postgresql columns use the database encoding"]⟩
  | .derby, some (.named n) =>
    ⟨.databaseDefault, [ignoredCharacterSet n "derby stores all character data as Unicode"]⟩
  | _, _ => ⟨.databaseDefault, []⟩

/-- Whether a text can be the name of a character set of MySQL. -/
def isCharacterSetName (n : String) : Bool :=
  n ≠ "" && n.toList.all fun c => c.isAlphanum || c == '_'

/-- A column of characters in MySQL, with its character set behind the type. -/
def characterColumn (d : ColumnDefinition) : TextEncoding → Except DdlError ColumnDefinition
  | .explicit n =>
    if isCharacterSetName n then .ok (d.withSuffix ("CHARACTER SET " ++ n))
    else .error (.invalidConfiguration (.notCharacterSet n))
  | _ => .ok d

/-- A type that takes a length or leaves it. -/
def Capabilities.sized : Capabilities := Capabilities.scalar.withLength .optional

/-- A type that needs a length. -/
def Capabilities.sizedAlways : Capabilities := Capabilities.scalar.withLength .required

/-- A type that takes a precision or leaves it. -/
def Capabilities.scaled : Capabilities := Capabilities.scalar.withPrecision .optional

namespace ColumnType

open ColumnDefinition

/-- The column of a type under its usual name. -/
def usualColumn : ColumnType → ColumnDefinition
  | .bigint => ofType "BIGINT" .scalar
  | .blob => ofType "BLOB" .bare
  | .boolean => ofType "BOOLEAN" .scalar
  | .char => ofType "CHAR" .sized
  | .decimal => ofType "DECIMAL" .scaled
  | .integer => ofType "INTEGER" .scalar
  | .smallint => ofType "SMALLINT" .scalar
  | .timestamp => ofType "TIMESTAMP" .scalar
  | .varbinary => ofType "VARBINARY" .sizedAlways
  | .varchar => ofType "VARCHAR" .sizedAlways

/-- The column of a type in Derby, which marks binary data behind the type. -/
def derbyColumn : ColumnType → ColumnDefinition
  | .varbinary => (ofType "VARCHAR" .sizedAlways).withSuffix "FOR BIT DATA"
  | t => t.usualColumn

/-- The column of a type in MySQL, which has a character set for each column. -/
def mysqlColumn (t : ColumnType) (e : TextEncoding) : Except DdlError ColumnDefinition :=
  if t.isText then characterColumn t.usualColumn e else .ok t.usualColumn

/-- The column of a type in Oracle. The integers are numbers with as many digits
    as the largest of them has; truth values are missing. -/
def oracleColumn? (t : ColumnType) (e : TextEncoding) : Option ColumnDefinition :=
  match t with
  | .bigint => some (ofType "NUMBER(19, 0)" .scalar)
  | .blob => some (ofType "BLOB" .scalar)
  | .boolean => none
  | .char => some (ofType (if e = .national then "NCHAR" else "CHAR") .sized)
  | .decimal => some (ofType "NUMBER" .scaled)
  | .integer => some (ofType "NUMBER(10, 0)" .scalar)
  | .smallint => some (ofType "NUMBER(5, 0)" .scalar)
  | .timestamp => some (ofType "TIMESTAMP" .scalar)
  | .varbinary => some (ofType "RAW" .sizedAlways)
  | .varchar => some (ofType (if e = .national then "NVARCHAR2" else "VARCHAR2") .sized)

/-- The column of a type in PostgreSQL, where binary data has no length. -/
def postgresColumn : ColumnType → ColumnDefinition
  | .varchar => ofType "VARCHAR" .sized
  | .varbinary | .blob => ofType "BYTEA" .scalar
  | t => t.usualColumn

end ColumnType

/-- The column of a type in a dialect, under an encoding of its text. -/
def Dialect.columnType (d : Dialect) (t : ColumnType) (e : TextEncoding) :
    Except DdlError ColumnDefinition :=
  match d with
  | .derby => .ok t.derbyColumn
  | .mysql => t.mysqlColumn e
  | .oracle =>
    match t.oracleColumn? e with
    | some c => .ok c
    | none => .error (.unsupportedColumnType .oracle t)
  | .postgres => .ok t.postgresColumn

/-- The column for a request, with the events on the way to it. -/
def Dialect.columnDefinition (d : Dialect) (t : ColumnType) (charset : Option CharacterSet) :
    Logged (Except DdlError ColumnDefinition) :=
  (d.textEncoding charset).andThen fun e =>
    match d.columnType t e with
    | .ok c =>
      ⟨.ok c, [.debug (d.productName ++ ": resolved " ++ t.word ++ " as " ++ c.baseType)]⟩
    | .error fault => ⟨.error fault, []⟩

end PortableDdl
