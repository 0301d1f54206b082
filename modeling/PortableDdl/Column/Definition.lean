import PortableDdl.Column.Capabilities

/-!
# Column definitions

One column of a table, without its name: the type with its limit and suffix,
the default value, and the constraints on the column alone. A definition is
built by changing one part at a time; a change that the type does not take is
refused.
-/

namespace PortableDdl

/-- A column without its name. -/
structure ColumnDefinition where
  /-- The name of the type, without limit and suffix. -/
  baseType : String
  capabilities : Capabilities
  /-- What stands behind the limit. -/
  suffix : Option String := none
  limit : Option Limit := none
  /-- The expression of the default value. -/
  defaultValue : Option String := none
  notNull : Bool := false
  primaryKey : Bool := false
  unique : Bool := false
  check : Option String := none
deriving DecidableEq, Repr

namespace ColumnDefinition

/-- A column of a type with nothing more to it. -/
def ofType (baseType : String) (capabilities : Capabilities) : ColumnDefinition :=
  { baseType, capabilities }

/-- The column with something behind the limit. -/
def withSuffix (d : ColumnDefinition) (suffix : String) : ColumnDefinition :=
  { d with suffix := some suffix }

/-- The column with a limit, if the type takes it. -/
def withLimit (d : ColumnDefinition) (l : Limit) : Except DdlError ColumnDefinition :=
  (d.capabilities.checkLimit d.baseType l).map fun _ => { d with limit := some l }

/-- The column with a default value, if the type takes one. -/
def withDefault (d : ColumnDefinition) (value : String) : Except DdlError ColumnDefinition :=
  (d.capabilities.checkDefault d.baseType).map fun _ => { d with defaultValue := some value }

/-- The column without nulls. -/
def withNotNull (d : ColumnDefinition) : ColumnDefinition := { d with notNull := true }

/-- The column as primary key. -/
def withPrimaryKey (d : ColumnDefinition) : ColumnDefinition := { d with primaryKey := true }

/-- The column with values that differ. -/
def withUnique (d : ColumnDefinition) : ColumnDefinition := { d with unique := true }

/-- The column with a condition on its values. -/
def withCheck (d : ColumnDefinition) (condition : String) : ColumnDefinition :=
  { d with check := some condition }

/-- Whether the column needs a constraint of its own for its values to differ:
    in a primary key they do so anyway. -/
def isUnique (d : ColumnDefinition) : Bool := d.unique && !d.primaryKey

/-- Whether a limit is missing that the type does not stand without. -/
def lacksLimit (d : ColumnDefinition) : Bool :=
  d.limit.isNone && d.capabilities.limit == .required

/-- The type with its limit and its suffix. -/
def typeText (d : ColumnDefinition) : Except DdlError String :=
  if d.lacksLimit then .error (.missingRequiredLimit d.baseType)
  else .ok (d.baseType ++ (d.limit.elim "" Limit.sql) ++ (d.suffix.elim "" (" " ++ ·)))

/-- The clauses behind the type, in their fixed order. -/
def clauses (d : ColumnDefinition) : List String :=
  (d.defaultValue.map ("DEFAULT " ++ ·)).toList ++
  (if d.notNull then ["NOT NULL"] else []) ++
  (if d.primaryKey then ["PRIMARY KEY"] else []) ++
  (if d.isUnique then ["UNIQUE"] else []) ++
  (d.check.map fun condition => "CHECK (" ++ condition ++ ")").toList

/-- Everything that stands behind the name of the column. -/
def text (d : ColumnDefinition) : Except DdlError String :=
  d.typeText.map fun type => " ".intercalate (type :: d.clauses)

/-- The column under a name that is written as it stands. -/
def sql (d : ColumnDefinition) (name : String) : Except DdlError String :=
  d.text.map fun t => name ++ " " ++ t

end ColumnDefinition

end PortableDdl
