import PortableDdl.Adapter.Index
import PortableDdl.Proofs.Shape

/-!
# Where an index is

The text that makes an index and the text that drops it are read, each by the
rule of the dialect on where an index is found. For the same arguments both say
the same place, whichever of the two texts names the schema, and a text that
drops an index drops no other.
-/

namespace PortableDdl
open Sql

/-- What an index belongs to. -/
inductive IndexOwner where
  /-- A schema, or the one that is current where the text has none. -/
  | schema (stored : Option String)
  | table (schema : Option String) (stored : String)
deriving DecidableEq, Repr

structure IndexLocation where
  name : String
  owner : IndexOwner
deriving DecidableEq, Repr

/-- What the text that makes an index says, its names in their stored case. -/
structure CreatedIndex where
  unique : Bool
  schema : Option String
  name : String
  tableSchema : Option String
  table : String
  columns : List String
deriving DecidableEq, Repr

/-- Where a dialect makes an index. MySQL has it with its table, PostgreSQL in the
    schema of its table, and neither takes a schema before its name. -/
def CreatedIndex.location? (i : CreatedIndex) : Dialect → Option IndexLocation
  | .mysql => if i.schema = none then some ⟨i.name,.table i.tableSchema i.table⟩ else none
  | .postgres => if i.schema = none then some ⟨i.name,.schema i.tableSchema⟩ else none
  | .derby | .oracle => some ⟨i.name,.schema i.schema⟩

/-- The words with which an index is made, and whether its values must differ. -/
def indexOpenings : List (String × Bool) := [("CREATE INDEX ",false),("CREATE UNIQUE INDEX ",true)]

namespace Sql.Reader

/-- Reads what makes an index. -/
def createdIndex : Reader CreatedIndex := do
  let unique ← oneOf indexOpenings
  let index ← located
  words " ON "
  let table ← located
  words " ("
  let columns ← commaSeparated name
  words ")"
  return ⟨unique,index.1,index.2,table.1,table.2,columns⟩

/-- Reads what drops an index. -/
def droppedIndex (d : Dialect) : Reader IndexLocation := do
  words "DROP INDEX "
  if d = .mysql then
    let index ← name
    words " ON "
    let table ← located
    return ⟨index,.table table.1 table.2⟩
  else
    let index ← located
    return ⟨index.2,.schema index.1⟩

end Sql.Reader

namespace Adapter

/-- The stored schema, given or by default. -/
def storedSchema (a : Adapter) (schema : Option String) : Option String :=
  (schema.or a.settings.defaultSchema).map a.dialect.fold

/-- Where an index is by all that is asked for. -/
def indexLocation (a : Adapter) (schema : Option String) (table index : String) : IndexLocation where
  name := a.dialect.fold index
  owner :=
    if a.dialect = .mysql then .table (a.storedSchema schema) (a.dialect.fold table)
    else .schema (a.storedSchema schema)

/-- What the text that makes an index has to say. -/
def createdIndex (a : Adapter) (schema : Option String) (table index : String) (columns : List String)
    (unique : Bool) : CreatedIndex where
  unique := unique
  schema := if a.dialect = .derby ∨ a.dialect = .oracle then a.storedSchema schema else none
  name := a.dialect.fold index
  tableSchema := a.storedSchema schema
  table := a.dialect.fold table
  columns := columns.map a.dialect.fold

end Adapter

def CreatedIndex.statement (i : CreatedIndex) : Statement :=
  [.words (if i.unique then "CREATE UNIQUE INDEX " else "CREATE INDEX ")] ++ (located i.schema i.name ++
    ([.words " ON "] ++ (located i.tableSchema i.table ++ ([.words " ("] ++ (names i.columns ++ [.words ")"])))))

def IndexLocation.dropStatement (l : IndexLocation) : Statement :=
  [.words "DROP INDEX "] ++ match l.owner with
    | .schema s => located s l.name
    | .table s t => [.name l.name] ++ ([.words " ON "] ++ located s t)

/-- Whether a dialect has its indexes where a location says. -/
def IndexLocation.Possible (d : Dialect) (l : IndexLocation) : Prop :=
  match l.owner with
  | .schema _ => d ≠ .mysql
  | .table _ _ => d = .mysql

theorem reads_createdIndex {i : CreatedIndex} (present : i.columns ≠ []) :
    Reads Reader.createdIndex i.statement [] i := by
  refine Reads.bind (x := i.unique) ?_ (Reads.bind (reads_located i.schema i.name ?_) (Reads.bind (reads_words " ON " _)
    (Reads.bind (reads_located i.tableSchema i.table ?_) (Reads.bind (reads_words " (" _)
      (Reads.bind (reads_names i.columns present rfl)
        (Reads.bind (t := []) (reads_words ")" _) (reads_pure _ [])))))))
  · cases i.unique
    · exact reads_oneOf (by decide) (by decide) _
    · exact reads_oneOf (by decide) (by decide) _
  -- No point follows either name, so that neither is taken for a schema.
  · exact (by decide : some (Token.outside ' ') ≠ some (.outside '.'))
  · exact (by decide : some (Token.outside ' ') ≠ some (.outside '.'))

theorem reads_droppedIndex {d : Dialect} {l : IndexLocation} (possible : l.Possible d) :
    Reads (Reader.droppedIndex d) l.dropStatement [] l := by
  obtain ⟨n,owner⟩ := l
  cases owner with
  | schema s =>
    have other : d ≠ .mysql := possible
    refine Reads.bind (reads_words "DROP INDEX " _) ?_
    rw [if_neg other]
    exact Reads.map (reads_located s n (by simp))
  | table s t =>
    have mysql : d = .mysql := possible
    refine Reads.bind (reads_words "DROP INDEX " _) ?_
    rw [if_pos mysql]
    exact Reads.bind (reads_name n _) (Reads.bind (reads_words " ON " _) (Reads.map (reads_located s t (by simp))))

theorem readable_createdIndex (d : Dialect) (i : CreatedIndex) : Readable d i.statement := by
  cases h : i.unique <;>
    simp +decide [CreatedIndex.statement,h,readable_words,readable_around,readable_located,readable_names,readable_nil]

theorem readable_dropStatement (d : Dialect) (l : IndexLocation) : Readable d l.dropStatement := by
  obtain ⟨n,owner⟩ := l
  cases owner with
  | schema s => exact readable_words.mpr ⟨by decide,readable_located d s n⟩
  | table s t =>
    exact readable_words.mpr ⟨by decide,readable_name_words.mpr ⟨by decide,readable_located d s t⟩⟩

/-- What drops an index is read back from its text. -/
theorem droppedIndex_of_text {d : Dialect} {l : IndexLocation} (possible : l.Possible d) :
    (Reader.droppedIndex d).all d (l.dropStatement.text d.quoteChar) = some l :=
  all_of_reads (readable_dropStatement d l) (reads_droppedIndex possible)

section
variable (a : Adapter) (schema : Option String) (table index : String)

theorem possible_indexLocation : (a.indexLocation schema table index).Possible a.dialect := by
  by_cases mysql : a.dialect = .mysql
  · simp [IndexLocation.Possible,Adapter.indexLocation,mysql]
  · simp [IndexLocation.Possible,Adapter.indexLocation,mysql]

/-- An index is dropped where it is. -/
theorem dropIndex_eq : a.dropIndex schema table index = (a.indexLocation schema table index).dropStatement := by
  by_cases mysql : a.dialect = .mysql
  · simp [Adapter.dropIndex,Adapter.indexName,Adapter.indexLocation,IndexLocation.dropStatement,mysql,Adapter.name,
      Adapter.tableName,Adapter.qualifiedName_eq_located,Adapter.storedSchema,Adapter.effectiveSchema]
  · have qualified : a.indexName schema index = located (a.storedSchema schema) (a.dialect.fold index) := by
      unfold Adapter.indexName
      split
      · contradiction
      · exact a.qualifiedName_eq_located schema index
    simp [Adapter.dropIndex,Adapter.indexLocation,IndexLocation.dropStatement,mysql,qualified]

/-- An index is made on columns, and is then what its reading is written as. -/
theorem createIndex_eq (columns : List String) (unique : Bool) :
    a.createIndex schema table index columns unique =
      if columns = [] then .error (.invalidConfiguration (.indexWithoutColumns index))
      else .ok (a.createdIndex schema table index columns unique).statement := by
  by_cases none : columns = []
  · simp [Adapter.createIndex,none]
  · cases unique <;>
      simp [Adapter.createIndex,none,createdIndexName_eq,Adapter.createdIndex,CreatedIndex.statement,
        Adapter.storedSchema,Adapter.effectiveSchema,Adapter.tableName,Adapter.qualifiedName_eq_located,
        Adapter.nameList_eq_names]

/-- Wherever the two texts put the schema, they speak of one place. -/
theorem location_createdIndex (columns : List String) (unique : Bool) :
    (a.createdIndex schema table index columns unique).location? a.dialect =
      some (a.indexLocation schema table index) := by
  unfold CreatedIndex.location? Adapter.createdIndex Adapter.indexLocation
  cases a.dialect <;> simp

end

/-- An index is made unless it has no columns. The text that makes it and the
    text that drops it are read back into one place, that of the stored name in
    the schema in effect or, in MySQL, on the stored table. Two texts that drop an
    index are the same only if they are about one place. -/
theorem dropIndex_finds_createdIndex (a : Adapter) (schema : Option String) (table index : String) :
    (∀ columns unique e, a.createIndex schema table index columns unique = .error e ↔
      columns = [] ∧ e = .invalidConfiguration (.indexWithoutColumns index)) ∧
    (∀ column more unique, ∃ s made, a.createIndex schema table index (column :: more) unique = .ok s ∧
      Reader.createdIndex.all a.dialect (a.text s) = some made ∧
      made = a.createdIndex schema table index (column :: more) unique ∧
      made.location? a.dialect = some (a.indexLocation schema table index)) ∧
    (Reader.droppedIndex a.dialect).all a.dialect (a.text (a.dropIndex schema table index)) =
      some (a.indexLocation schema table index) ∧
    ∀ otherSchema otherTable other,
      a.text (a.dropIndex schema table index) = a.text (a.dropIndex otherSchema otherTable other) ↔
        a.indexLocation schema table index = a.indexLocation otherSchema otherTable other := by
  have dropped : ∀ s t i, (Reader.droppedIndex a.dialect).all a.dialect (a.text (a.dropIndex s t i)) =
      some (a.indexLocation s t i) := by
    intro s t i
    rw [dropIndex_eq]
    exact droppedIndex_of_text (possible_indexLocation a s t i)
  refine ⟨?_,?_,dropped schema table index,?_⟩
  · intro columns unique e
    rw [createIndex_eq]
    split
    · rename_i none
      simp [none,eq_comm]
    · rename_i some
      simp [some]
  · intro column more unique
    have read : Reader.createdIndex.all a.dialect
        (a.text (a.createdIndex schema table index (column :: more) unique).statement) =
        some (a.createdIndex schema table index (column :: more) unique) :=
      all_of_reads (readable_createdIndex a.dialect _) (reads_createdIndex (by simp [Adapter.createdIndex]))
    refine ⟨_,_,?_,read,rfl,location_createdIndex a schema table index (column :: more) unique⟩
    rw [createIndex_eq,if_neg (List.cons_ne_nil column more)]
  · intro otherSchema otherTable other
    constructor
    · intro same
      have read := dropped schema table index
      rw [same,dropped otherSchema otherTable other] at read
      exact (Option.some.inj read).symm
    · intro same
      rw [dropIndex_eq,dropIndex_eq,same]

end PortableDdl
