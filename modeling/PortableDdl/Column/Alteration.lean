import PortableDdl.Column.Definition

/-!
# Alterations

What has to be done to a column of a table so that it becomes as a definition
says, one thing at a time.
-/

namespace PortableDdl

/-- One thing that is done to a column of a table. -/
inductive Alteration where
  | setType (type : String)
  | forbidNull
  | allowNull
  | setDefault (value : String)
  | dropDefault
  | addPrimaryKey
  | addUnique
  | addCheck (condition : String)
deriving DecidableEq, Repr

namespace ColumnDefinition

/-- The constraints that a definition brings with it. -/
def constraints (d : ColumnDefinition) : List Alteration :=
  (if d.primaryKey then [.addPrimaryKey] else []) ++
  (if d.isUnique then [.addUnique] else []) ++
  (d.check.map .addCheck).toList

/-- All that makes a column what a definition says. -/
def alterations (d : ColumnDefinition) : Except DdlError (List Alteration) :=
  d.typeText.map fun type =>
    [.setType type, if d.notNull then .forbidNull else .allowNull,
      d.defaultValue.elim .dropDefault .setDefault] ++ d.constraints

end ColumnDefinition

end PortableDdl
