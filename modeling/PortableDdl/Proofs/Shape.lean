import PortableDdl.Adapter.Column
import PortableDdl.Adapter.ForeignKey
import PortableDdl.Adapter.Index
import PortableDdl.Proofs.Reader

/-!
# The shape of a statement

The operations that are told names only write statements whose text outside the
quotes does not depend on the names, and whose quotes hold the names and nothing
else.
-/

namespace PortableDdl
open Sql

/-- The characters before the first quoted piece, between every two of them, and
    after the last. -/
def outsideRuns : List Token → List (List Char)
  | [] => [[]]
  | .outside c :: ts => (outsideRuns ts).modifyHead (c :: ·)
  | .name _ :: ts => [] :: outsideRuns ts
  | .literal _ :: ts => [] :: outsideRuns ts

/-- The texts before the first quoted piece, between every two of them, and after
    the last. -/
def outsideTexts (ts : List Token) : List String := (outsideRuns ts).map String.ofList

/-- The names between quotes. -/
def quotedNames (ts : List Token) : List String :=
  ts.filterMap fun
    | .name n => some n
    | _ => none

theorem outsideRuns_outside (cs : List Char) (ts : List Token) :
    outsideRuns (cs.map .outside ++ ts) = (outsideRuns ts).modifyHead (cs ++ ·) := by
  induction cs with
  | nil =>
    show outsideRuns ts = (outsideRuns ts).modifyHead id
    rw [List.modifyHead_id]
    rfl
  | cons c cs ih => simp [outsideRuns,ih,List.modifyHead_modifyHead,Function.comp_def]

theorem outsideTexts_nil : outsideTexts (Statement.tokens []) = [""] := rfl

theorem outsideTexts_words (t : String) (s : Statement) :
    outsideTexts (Statement.tokens (.words t :: s)) = (outsideTexts s.tokens).modifyHead (t ++ ·) := by
  rw [tokens_cons,Fragment.tokens,outsideTexts,outsideTexts,outsideRuns_outside]
  cases outsideRuns s.tokens <;> simp [String.ofList_append]

theorem outsideTexts_name (n : String) (s : Statement) :
    outsideTexts (Statement.tokens (.name n :: s)) = "" :: outsideTexts s.tokens := rfl

/-- The text between a schema and a name. -/
def qualifier (qualified : Bool) : List String := if qualified then ["."] else []

theorem outsideTexts_located (schema : Option String) (n : String) (s : Statement) :
    outsideTexts (Statement.tokens (located schema n ++ s)) =
      "" :: (qualifier schema.isSome ++ outsideTexts s.tokens) := by
  cases schema <;> rfl

theorem outsideTexts_located_last (schema : Option String) (n : String) :
    outsideTexts (located schema n).tokens = "" :: (qualifier schema.isSome ++ [""]) := by
  cases schema <;> rfl

theorem outsideTexts_names (n : String) (ns : List String) (s : Statement) :
    outsideTexts (Statement.tokens (names (n :: ns) ++ s)) =
      "" :: (List.replicate ns.length ", " ++ outsideTexts s.tokens) := by
  induction ns generalizing n with
  | nil => rfl
  | cons m ns ih =>
    have split : names (n :: m :: ns) ++ s = .name n :: .words ", " :: (names (m :: ns) ++ s) := by
      simp [names,separated_cons_cons]
    rw [split,outsideTexts_name,outsideTexts_words,ih]
    simp [List.replicate_succ]

theorem quotedNames_append (ts us : List Token) : quotedNames (ts ++ us) = quotedNames ts ++ quotedNames us :=
  List.filterMap_append

theorem quotedNames_words (t : String) : quotedNames (Fragment.tokens (.words t)) = [] := by
  simp [quotedNames,Fragment.tokens]

theorem quotedNames_name (n : String) : quotedNames (Fragment.tokens (.name n)) = [n] := rfl

theorem quotedNames_located (schema : Option String) (n : String) :
    quotedNames (located schema n).tokens = schema.toList ++ [n] := by
  cases schema <;> rfl

theorem quotedNames_names (ns : List String) : quotedNames (names ns).tokens = ns := by
  induction ns with
  | nil => rfl
  | cons n ns ih =>
    cases ns with
    | nil => rfl
    | cons m ns =>
      have split : names (n :: m :: ns) = .name n :: .words ", " :: names (m :: ns) := by
        simp [names,separated_cons_cons]
      rw [split,tokens_cons,tokens_cons,quotedNames_append,quotedNames_append,quotedNames_words,ih]
      rfl

/-- What can be asked of a table by names alone. -/
inductive NamedOperation where
  | dropColumn (column : String)
  | createIndex (index column : String) (more : List String) (unique : Bool)
  | dropIndex (index : String)
  | dropForeignKey (key : String)
  | lock
deriving DecidableEq, Repr

/-- An operation without its names. -/
inductive OperationKind where
  | dropColumn
  | createIndex (columns : Nat) (unique : Bool)
  | dropIndex
  | dropForeignKey
  | lock
deriving DecidableEq, Repr

namespace NamedOperation

/-- The statement of an operation. -/
def statement (a : Adapter) (schema : Option String) (table : String) :
    NamedOperation → Except DdlError Statement
  | .dropColumn c => .ok (a.dropColumn schema table c)
  | .createIndex i c more unique => a.createIndex schema table i (c :: more) unique
  | .dropIndex i => .ok (a.dropIndex schema table i)
  | .dropForeignKey k => .ok (a.dropForeignKey schema table k)
  | .lock => .ok (a.lockTable schema table)

/-- The operation without its names. -/
def kind : NamedOperation → OperationKind
  | .dropColumn _ => .dropColumn
  | .createIndex _ _ more unique => .createIndex (more.length + 1) unique
  | .dropIndex _ => .dropIndex
  | .dropForeignKey _ => .dropForeignKey
  | .lock => .lock

/-- The names that the statement holds, in their order. The schema is that in
    effect. -/
def names (d : Dialect) (schema : Option String) (table : String) : NamedOperation → List String
  | .dropColumn c => schema.toList ++ [table,c]
  | .createIndex i c more _ =>
    (if d = .derby ∨ d = .oracle then schema.toList else []) ++ i :: (schema.toList ++ table :: c :: more)
  | .dropIndex i => if d = .mysql then i :: (schema.toList ++ [table]) else schema.toList ++ [i]
  | .dropForeignKey k => schema.toList ++ [table,k]
  | .lock => schema.toList ++ [table]

end NamedOperation

/-- The texts outside the quotes of an operation in a dialect, with or without a
    schema before its table. -/
def OperationKind.outside (d : Dialect) (qualified : Bool) : OperationKind → List String
  | .dropColumn => "ALTER TABLE " :: (qualifier qualified ++ [" DROP COLUMN ",""])
  | .createIndex columns unique =>
    (if unique then "CREATE UNIQUE INDEX " else "CREATE INDEX ") ::
      (qualifier (qualified && (d = .derby || d = .oracle)) ++ " ON " :: (qualifier qualified ++ " (" ::
        (List.replicate (columns - 1) ", " ++ [")"])))
  | .dropIndex =>
    "DROP INDEX " :: if d = .mysql then " ON " :: (qualifier qualified ++ [""]) else qualifier qualified ++ [""]
  | .dropForeignKey =>
    "ALTER TABLE " ::
      (qualifier qualified ++ [if d = .mysql then " DROP FOREIGN KEY " else " DROP CONSTRAINT ",""])
  | .lock =>
    if d = .mysql then "LOCK TABLES " :: (qualifier qualified ++ [" WRITE"])
    else "LOCK TABLE " :: (qualifier qualified ++ [" IN EXCLUSIVE MODE"])

/-- An index name is located in Derby and Oracle only. -/
theorem createdIndexName_eq (a : Adapter) (schema : Option String) (index : String) :
    a.createdIndexName schema index =
      located (if a.dialect = .derby ∨ a.dialect = .oracle then (a.effectiveSchema schema).map a.dialect.fold
        else none) (a.dialect.fold index) := by
  unfold Adapter.createdIndexName Adapter.indexName
  cases h : a.dialect <;>
    simp [Dialect.qualifiesCreatedIndex,Adapter.name,located,Adapter.qualifiedName_eq_located,h]

attribute [local simp] Adapter.name Adapter.tableName Adapter.alterTable Adapter.qualifiedName_eq_located
  Adapter.nameList_eq_names createdIndexName_eq readable_nil readable_name readable_words readable_name_words
  readable_around readable_located readable_names

theorem readable_operation {a : Adapter} {schema : Option String} {table : String} {op : NamedOperation}
    {s : Statement} (written : op.statement a schema table = .ok s) : Readable a.dialect s := by
  cases op with
  | dropColumn c =>
    cases written
    simp +decide [Adapter.dropColumn]
  | createIndex i c more unique =>
    cases written
    cases unique <;> simp +decide
  | dropIndex i =>
    cases written
    cases h : a.dialect <;> simp +decide [Adapter.dropIndex,Adapter.indexName,h]
  | dropForeignKey k =>
    cases written
    cases h : a.dialect <;> simp +decide [Adapter.dropForeignKey,h]
  | lock =>
    cases written
    cases h : a.dialect <;> simp +decide [Adapter.lockTable,h]

attribute [local simp] outsideTexts_nil outsideTexts_words outsideTexts_name outsideTexts_located
  outsideTexts_located_last outsideTexts_names

theorem outsideTexts_operation {a : Adapter} {schema : Option String} {table : String} {op : NamedOperation}
    {s : Statement} (written : op.statement a schema table = .ok s) :
    outsideTexts s.tokens = op.kind.outside a.dialect (a.effectiveSchema schema).isSome := by
  cases op with
  | dropColumn c =>
    cases written
    simp [Adapter.dropColumn,NamedOperation.kind,OperationKind.outside]
  | createIndex i c more unique =>
    cases written
    cases h : a.dialect <;> simp [NamedOperation.kind,OperationKind.outside,qualifier,h]
  | dropIndex i =>
    cases written
    cases h : a.dialect <;> simp [Adapter.dropIndex,Adapter.indexName,NamedOperation.kind,OperationKind.outside,h]
  | dropForeignKey k =>
    cases written
    cases h : a.dialect <;> simp [Adapter.dropForeignKey,NamedOperation.kind,OperationKind.outside,h]
  | lock =>
    cases written
    cases h : a.dialect <;> simp [Adapter.lockTable,NamedOperation.kind,OperationKind.outside,h]

attribute [local simp] Option.toList_map tokens_nil tokens_cons tokens_append quotedNames_append quotedNames_words
  quotedNames_name quotedNames_located quotedNames_names

theorem quotedNames_operation {a : Adapter} {schema : Option String} {table : String} {op : NamedOperation}
    {s : Statement} (written : op.statement a schema table = .ok s) :
    quotedNames s.tokens = (op.names a.dialect (a.effectiveSchema schema) table).map a.dialect.fold := by
  cases op with
  | dropColumn c =>
    cases written
    simp [Adapter.dropColumn,NamedOperation.names]
  | createIndex i c more unique =>
    cases written
    cases h : a.dialect <;> simp [NamedOperation.names,h]
  | dropIndex i =>
    cases written
    cases h : a.dialect <;> simp [Adapter.dropIndex,Adapter.indexName,NamedOperation.names,h]
  | dropForeignKey k =>
    cases written
    simp [Adapter.dropForeignKey,NamedOperation.names]
  | lock =>
    cases written
    cases h : a.dialect <;> simp [Adapter.lockTable,NamedOperation.names,h]

/-- The text of an operation shows its words and its names, each in a place of
    its own: the words depend on the kind of the operation only, and the names
    are the given ones in their stored case. -/
theorem scan_named_operation (a : Adapter) (schema : Option String) (table : String) (op : NamedOperation) :
    ∃ s ts, op.statement a schema table = .ok s ∧ scanText? a.dialect (a.text s) = some ts ∧
      outsideTexts ts = op.kind.outside a.dialect (schema.or a.settings.defaultSchema).isSome ∧
      quotedNames ts = (op.names a.dialect (schema.or a.settings.defaultSchema) table).map a.dialect.fold := by
  obtain ⟨s,written⟩ : ∃ s, op.statement a schema table = .ok s := by cases op <;> exact ⟨_,rfl⟩
  exact ⟨s,s.tokens,written,scanText?_text (readable_operation written),outsideTexts_operation written,
    quotedNames_operation written⟩

end PortableDdl
