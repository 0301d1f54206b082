import PortableDdl.Adapter.ForeignKey
import PortableDdl.Proofs.Reader

/-!
# What a foreign key says

Which foreign keys can be added, and what is read back from the text that adds
one: the two tables, the two lists of columns and the clauses on what happens to
referring rows.
-/

namespace PortableDdl
open Sql

/-- What the text that adds a foreign key says, its names in their stored case. -/
structure ForeignKeyReading where
  schema : Option String
  table : String
  name : String
  columns : List String
  referencesSchema : Option String
  referencesTable : String
  referencesColumns : List String
  onDelete : Option ForeignKeyAction
  onUpdate : Option ForeignKeyAction
deriving DecidableEq, Repr

/-- The words of a clause before its action. -/
def clauseOpening : ReferentialEvent → String
  | .delete => " ON DELETE "
  | .update => " ON UPDATE "

/-- The words at the end of a clause, and what they mean. -/
def actionWords : List (String × ForeignKeyAction) :=
  [("CASCADE",.cascade),("RESTRICT",.restrict),("SET NULL",.setNull),("NO ACTION",.noAction)]

namespace Sql.Reader

/-- Reads the table that is altered. -/
def alteredTable : Reader (Option String × String) := do
  words "ALTER TABLE "
  let table ← located
  words " "
  return table

/-- Reads a clause, or nothing where there is none on the event. -/
def clause (event : ReferentialEvent) : Reader (Option ForeignKeyAction) := fun ts =>
  match skip (clauseOpening event).toList ts with
  | none => some (none,ts)
  | some more => StateT.run (do return some (← oneOf actionWords)) more

/-- Reads what adds a foreign key. -/
def foreignKey : Reader ForeignKeyReading := do
  let table ← alteredTable
  words "ADD CONSTRAINT "
  let key ← name
  words " FOREIGN KEY ("
  let columns ← commaSeparated name
  words ") REFERENCES "
  let referenced ← located
  words " ("
  let referencesColumns ← commaSeparated name
  words ")"
  let onDelete ← clause .delete
  let onUpdate ← clause .update
  return ⟨table.1,table.2,key,columns,referenced.1,referenced.2,referencesColumns,onDelete,onUpdate⟩

end Sql.Reader

/-- The actions that a clause on changed keys may ask for. -/
def AllowedOnUpdate : Dialect → Option ForeignKeyAction → Prop
  | .oracle, action => action = none ∨ action = some .restrict
  | .derby, action => action ≠ some .cascade ∧ action ≠ some .setNull
  | _, _ => True

/-- Whether there are columns, and as many on both sides. -/
def ForeignKey.Matched (k : ForeignKey) : Prop := k.columns ≠ [] ∧ k.columns.length = k.referencesColumns.length

/-- The action of which a clause speaks: none where NO ACTION is left out, or
    where it is RESTRICT in Oracle. -/
def Adapter.shownAction (a : Adapter) : Option ForeignKeyAction → Option ForeignKeyAction
  | some .noAction => if a.settings.renderNoAction then some .noAction else none
  | some .restrict => if a.dialect = .oracle then none else some .restrict
  | action => action

/-- What the text that adds a foreign key has to say. -/
def Adapter.foreignKeyReading (a : Adapter) (k : ForeignKey) : ForeignKeyReading :=
  { schema := (k.schema.or a.settings.defaultSchema).map a.dialect.fold
    table := a.dialect.fold k.table
    name := a.dialect.fold k.name
    columns := k.columns.map a.dialect.fold
    referencesSchema := ((k.referencesSchema.or k.schema).or a.settings.defaultSchema).map a.dialect.fold
    referencesTable := a.dialect.fold k.referencesTable
    referencesColumns := k.referencesColumns.map a.dialect.fold
    onDelete := a.shownAction k.onDelete
    onUpdate := a.shownAction k.onUpdate }

/-- A clause, written, or nothing. -/
def clauseStatement (event : ReferentialEvent) : Option ForeignKeyAction → Statement
  | some x => [.words (clauseOpening event ++ x.sql)]
  | none => []

/-- What adds a foreign key, written. -/
def ForeignKeyReading.statement (k : ForeignKeyReading) : Statement :=
  ([.words "ALTER TABLE "] ++ (located k.schema k.table ++ [.words " "])) ++
    ([.words "ADD CONSTRAINT "] ++ ([.name k.name] ++ ([.words " FOREIGN KEY ("] ++ (names k.columns ++
      ([.words ") REFERENCES "] ++ (located k.referencesSchema k.referencesTable ++ ([.words " ("] ++
        (names k.referencesColumns ++ ([.words ")"] ++ (clauseStatement .delete k.onDelete ++
          clauseStatement .update k.onUpdate))))))))))

theorem reads_alteredTable (schema : Option String) (table : String) (rest : List Token) :
    Reads Reader.alteredTable ([.words "ALTER TABLE "] ++ (located schema table ++ [.words " "])) rest
      (schema,table) := by
  refine Reads.bind (reads_words _ _) (Reads.bind (reads_located schema table ?_) ?_)
  · exact (by decide : some (Token.outside ' ') ≠ some (.outside '.'))
  · exact Reads.bind (t := []) (reads_words " " _) (reads_pure _ rest)

theorem action_distinct : ∀ x ∈ ForeignKeyAction.all, ∀ y ∈ ForeignKeyAction.all,
    y = x ∨ Differ y.sql x.sql := by
  decide

theorem actionWords_eq : actionWords = ForeignKeyAction.all.map fun x => (x.sql,x) := rfl

theorem reads_action (x : ForeignKeyAction) (rest : List Token) :
    Reads (Reader.oneOf actionWords) [.words x.sql] rest x := by
  rw [actionWords_eq]
  exact reads_oneOf_word action_distinct (by cases x <;> decide) rest

/-- A clause is read, and none is taken for it where another event or nothing
    follows. -/
theorem reads_clause (event : ReferentialEvent) (action : Option ForeignKeyAction) {rest : List Token}
    (closed : action = none → Reader.skip (clauseOpening event).toList rest = none) :
    Reads (Reader.clause event) (clauseStatement event action) rest action := by
  cases action with
  | none =>
    show Reader.clause event rest = _
    simp [Reader.clause,closed rfl]
  | some x =>
    have split : (clauseStatement event (some x)).tokens =
        (clauseOpening event).toList.map .outside ++ Statement.tokens [.words x.sql] := by
      simp [clauseStatement,tokens_cons,tokens_nil,Fragment.tokens,String.toList_append]
    have action : Reads (do return some (← Reader.oneOf actionWords)) [.words x.sql] rest (some x) :=
      Reads.map (reads_action x rest)
    rw [Reads,split,List.append_assoc]
    show Reader.clause event _ = _
    rw [Reader.clause,skip_outside]
    exact action

theorem reads_foreignKey {k : ForeignKeyReading} (columns : k.columns ≠ []) (references : k.referencesColumns ≠ []) :
    Reads Reader.foreignKey k.statement [] k := by
  refine Reads.bind (reads_alteredTable k.schema k.table _) (Reads.bind (reads_words _ _)
    (Reads.bind (reads_name k.name _) (Reads.bind (reads_words _ _) (Reads.bind (reads_names k.columns columns rfl)
      (Reads.bind (reads_words _ _) (Reads.bind (reads_located k.referencesSchema k.referencesTable ?_)
        (Reads.bind (reads_words _ _) (Reads.bind (reads_names k.referencesColumns references rfl)
          (Reads.bind (reads_words _ _) (Reads.bind (reads_clause .delete k.onDelete ?_)
            (Reads.map (reads_clause .update k.onUpdate ?_))))))))))))
  · exact (by decide : some (Token.outside ' ') ≠ some (.outside '.'))
  · intro _
    cases k.onUpdate with
    | none => rfl
    | some x => cases x <;> rfl
  · intro _
    rfl

theorem readable_clause {d : Dialect} (event : ReferentialEvent) (action : Option ForeignKeyAction) {s : Statement}
    (rest : Readable d s) : Readable d (clauseStatement event action ++ s) := by
  cases action with
  | none => exact rest
  | some x => cases event <;> cases x <;> exact readable_words.mpr ⟨by decide,rest⟩

theorem readable_foreignKey (d : Dialect) (k : ForeignKeyReading) : Readable d k.statement := by
  have clauses : Readable d (clauseStatement .delete k.onDelete ++ clauseStatement .update k.onUpdate) := by
    have both := readable_clause .delete k.onDelete (readable_clause .update k.onUpdate (readable_nil d))
    rwa [List.append_nil] at both
  simp +decide [ForeignKeyReading.statement,readable_words,readable_name_words,readable_around,readable_located,
    readable_names,clauses]

theorem columnsMatch_iff (k : ForeignKey) :
    Adapter.columnsMatch k.columns k.referencesColumns = true ↔ k.Matched := by
  simp [Adapter.columnsMatch,ForeignKey.Matched]

theorem shownAction_some (a : Adapter) (x : ForeignKeyAction) :
    a.shownAction (some x) = if a.omitsAction x then none else some x := by
  cases x <;> cases shown : a.settings.renderNoAction <;> cases h : a.dialect <;>
    simp +decide [Adapter.omitsAction,Adapter.shownAction,shown,h]

theorem clause_words (event : ReferentialEvent) (x : ForeignKeyAction) :
    " " ++ ("ON " ++ event.sql ++ " " ++ x.sql) = clauseOpening event ++ x.sql := by
  cases event <;> cases x <;> decide

theorem trailing_clause (a : Adapter) (event : ReferentialEvent) (action : Option ForeignKeyAction) :
    Adapter.trailing (a.actionClause? event action) = clauseStatement event (a.shownAction action) := by
  cases action with
  | none => rfl
  | some x =>
    rw [shownAction_some]
    cases omitted : a.omitsAction x
    · simp [Adapter.actionClause?,Adapter.trailing,clauseStatement,clause_words,omitted]
    · simp [Adapter.actionClause?,Adapter.trailing,clauseStatement,omitted]

theorem acceptsOnUpdate_iff (d : Dialect) (x : ForeignKeyAction) :
    d.acceptsOnUpdate x = true ↔ AllowedOnUpdate d (some x) := by
  cases d <;> cases x <;> simp [Dialect.acceptsOnUpdate,AllowedOnUpdate]

theorem onUpdate_allowed {a : Adapter} {action : Option ForeignKeyAction} (allowed : AllowedOnUpdate a.dialect action) :
    a.onUpdate action = .ok (a.actionClause? .update action) := by
  cases action with
  | none => rfl
  | some x => simp [Adapter.onUpdate,Option.filter_some,(acceptsOnUpdate_iff a.dialect x).mpr allowed]

theorem onUpdate_refused {a : Adapter} {x : ForeignKeyAction} (refused : ¬ AllowedOnUpdate a.dialect (some x)) :
    a.onUpdate (some x) = .error (.unsupportedForeignKeyAction a.dialect .update x) := by
  have no : a.dialect.acceptsOnUpdate x = false := by
    rw [← Bool.not_eq_true,acceptsOnUpdate_iff]
    exact refused
  simp [Adapter.onUpdate,Option.filter_some,no]

theorem addForeignKey_unmatched {a : Adapter} {k : ForeignKey} (unmatched : ¬ k.Matched) :
    a.addForeignKey k = .error (.invalidConfiguration (.unmatchedColumns k.name)) := by
  rw [← columnsMatch_iff] at unmatched
  simp [Adapter.addForeignKey,unmatched]

theorem addForeignKey_refused {a : Adapter} {k : ForeignKey} (isMatched : k.Matched) {x : ForeignKeyAction}
    (asked : k.onUpdate = some x) (refused : ¬ AllowedOnUpdate a.dialect (some x)) :
    a.addForeignKey k = .error (.unsupportedForeignKeyAction a.dialect .update x) := by
  rw [← columnsMatch_iff] at isMatched
  simp [Adapter.addForeignKey,isMatched,asked,onUpdate_refused refused,Except.map]

/-- A foreign key that can be added is what its reading is written as. -/
theorem addForeignKey_written {a : Adapter} {k : ForeignKey} (isMatched : k.Matched)
    (allowed : AllowedOnUpdate a.dialect k.onUpdate) :
    a.addForeignKey k = .ok (a.foreignKeyReading k).statement := by
  rw [← columnsMatch_iff] at isMatched
  simp [Adapter.addForeignKey,isMatched,onUpdate_allowed allowed,Except.map,ForeignKeyReading.statement,
    Adapter.foreignKeyReading,Adapter.onDelete,trailing_clause,Adapter.alterTable,Adapter.tableName,
    Adapter.qualifiedName_eq_located,Adapter.nameList_eq_names,Adapter.name,Adapter.effectiveSchema]

/-- Every foreign key is added, or refused for one of the two reasons. -/
theorem addForeignKey_ok_iff (a : Adapter) (k : ForeignKey) :
    (∃ s, a.addForeignKey k = .ok s) ↔ k.Matched ∧ AllowedOnUpdate a.dialect k.onUpdate := by
  constructor
  · rintro ⟨s,written⟩
    by_cases isMatched : k.Matched
    · refine ⟨isMatched,?_⟩
      by_contra refused
      cases asked : k.onUpdate with
      | none => rw [asked] at refused; cases h : a.dialect <;> simp [AllowedOnUpdate,h] at refused
      | some x =>
        rw [asked] at refused
        rw [addForeignKey_refused isMatched asked refused] at written
        cases written
    · rw [addForeignKey_unmatched isMatched] at written
      cases written
  · rintro ⟨isMatched,allowed⟩
    exact ⟨_,addForeignKey_written isMatched allowed⟩

theorem foreignKey_read {a : Adapter} {k : ForeignKey} {s : Statement} (written : a.addForeignKey k = .ok s) :
    Reader.foreignKey.all a.dialect (a.text s) = some (a.foreignKeyReading k) := by
  obtain ⟨isMatched,allowed⟩ := (addForeignKey_ok_iff a k).mp ⟨s,written⟩
  rw [addForeignKey_written isMatched allowed] at written
  cases written
  have columns : (a.foreignKeyReading k).columns ≠ [] := by simpa [Adapter.foreignKeyReading] using isMatched.1
  have references : (a.foreignKeyReading k).referencesColumns ≠ [] := by
    intro none
    have noReferences : k.referencesColumns = [] := by simpa [Adapter.foreignKeyReading] using none
    exact isMatched.1 (List.eq_nil_of_length_eq_zero (by rw [isMatched.2,noReferences]; rfl))
  exact all_of_reads (readable_foreignKey a.dialect _) (reads_foreignKey columns references)

/-- A foreign key is added exactly when its columns match and the dialect takes
    its action on changed keys, the first of which is looked at first. Its text
    is read back into all that it consists of, so that no two foreign keys that
    differ in it have one text. -/
theorem foreign_key_text (a : Adapter) (k : ForeignKey) :
    ((∃ s, a.addForeignKey k = .ok s) ↔
      k.columns ≠ [] ∧ k.columns.length = k.referencesColumns.length ∧ AllowedOnUpdate a.dialect k.onUpdate) ∧
    (¬ (k.columns ≠ [] ∧ k.columns.length = k.referencesColumns.length) →
      a.addForeignKey k = .error (.invalidConfiguration (.unmatchedColumns k.name))) ∧
    (k.columns ≠ [] → k.columns.length = k.referencesColumns.length → ∀ x, k.onUpdate = some x →
      ¬ AllowedOnUpdate a.dialect (some x) →
      a.addForeignKey k = .error (.unsupportedForeignKeyAction a.dialect .update x)) ∧
    (∀ s, a.addForeignKey k = .ok s →
      Reader.foreignKey.all a.dialect (a.text s) = some (a.foreignKeyReading k) ∧
      (a.foreignKeyReading k).columns.length = (a.foreignKeyReading k).referencesColumns.length) ∧
    ∀ other s t, a.addForeignKey k = .ok s → a.addForeignKey other = .ok t → a.text s = a.text t →
      a.foreignKeyReading k = a.foreignKeyReading other := by
  refine ⟨?_,fun unmatched => addForeignKey_unmatched unmatched,?_,?_,?_⟩
  · rw [addForeignKey_ok_iff,ForeignKey.Matched,and_assoc]
  · intro columns length x asked refused
    exact addForeignKey_refused ⟨columns,length⟩ asked refused
  · intro s written
    have isMatched := ((addForeignKey_ok_iff a k).mp ⟨s,written⟩).1
    exact ⟨foreignKey_read written,by simpa [Adapter.foreignKeyReading] using isMatched.2⟩
  · intro other s t written otherWritten same
    have read := foreignKey_read written
    rw [same,foreignKey_read otherWritten] at read
    exact (Option.some.inj read).symm

end PortableDdl
