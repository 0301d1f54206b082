import PortableDdl.Column.Definition

/-!
# Changes of a column definition

The changes that build a definition, as data, so that whole sequences of them
can be spoken of. A refused change leaves the definition as it was.
-/

namespace PortableDdl

/-- One step in building a definition. -/
inductive ColumnChange where
  | suffix (text : String)
  | limit (l : Limit)
  | defaultValue (value : String)
  | notNull
  | primaryKey
  | unique
  | check (condition : String)
deriving DecidableEq, Repr

namespace ColumnDefinition

/-- The definition after a change, or why it is refused. -/
def change (d : ColumnDefinition) : ColumnChange → Except DdlError ColumnDefinition
  | .suffix s => .ok (d.withSuffix s)
  | .limit l => d.withLimit l
  | .defaultValue v => d.withDefault v
  | .notNull => .ok d.withNotNull
  | .primaryKey => .ok d.withPrimaryKey
  | .unique => .ok d.withUnique
  | .check c => .ok (d.withCheck c)

/-- The definition after a change, or as it was if the change is refused. -/
def changeOrKeep (d : ColumnDefinition) (c : ColumnChange) : ColumnDefinition :=
  match d.change c with
  | .ok next => next
  | .error _ => d

/-- The definition after a sequence of changes, without the refused ones. -/
def run (d : ColumnDefinition) (cs : List ColumnChange) : ColumnDefinition :=
  cs.foldl changeOrKeep d

end ColumnDefinition

end PortableDdl
