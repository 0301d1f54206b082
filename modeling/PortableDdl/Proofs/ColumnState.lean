import PortableDdl.Adapter.Column
import PortableDdl.Proofs.Reader

/-!
# What becomes of a column

The actions of PostgreSQL and Derby on a column are read from their texts and
carried out. Whatever the column was before, afterwards it is what its
definition says, in both dialects, and with the constraints that the definition
declares inline.
-/

namespace PortableDdl
open Sql

/-- A constraint on one column. -/
inductive ColumnConstraint where
  | primaryKey
  | unique
  | check (condition : String)
deriving DecidableEq, Repr

/-- A column of a table, as the database has it. -/
structure ColumnState where
  type : String
  notNull : Bool
  defaultValue : Option String
  /-- The constraints, in the order in which they came. -/
  constraints : List ColumnConstraint
deriving DecidableEq, Repr

/-- The column after an alteration. -/
def ColumnState.alter (c : ColumnState) : Alteration → ColumnState
  | .setType t => { c with type := t }
  | .forbidNull => { c with notNull := true }
  | .allowNull => { c with notNull := false }
  | .setDefault v => { c with defaultValue := some v }
  | .dropDefault => { c with defaultValue := none }
  | .addPrimaryKey => { c with constraints := c.constraints ++ [.primaryKey] }
  | .addUnique => { c with constraints := c.constraints ++ [.unique] }
  | .addCheck condition => { c with constraints := c.constraints ++ [.check condition] }

/-- The characters behind the given words. -/
def after? (words : String) (cs : List Char) : Option (List Char) := words.toList.isPrefixOf? cs

/-- What the words of an alteration begin with, and which alteration it is, by
    what follows them. -/
abbrev Wording := String × (List Char → Option Alteration)

namespace Wording

/-- Words that say all. -/
def alone (words : String) (x : Alteration) : Wording := (words,fun rest => if rest = [] then some x else none)

/-- Words with a text behind them. -/
def before (words : String) (x : String → Alteration) : Wording := (words,fun rest => some (x (String.ofList rest)))

/-- Words with a text in parentheses behind them. -/
def around (words : String) (x : String → Alteration) : Wording :=
  (words ++ " (",fun rest => if rest.getLast? = some ')' then some (x (String.ofList rest.dropLast)) else none)

/-- The alteration that a text words in one of several ways. -/
def read? (wordings : List Wording) (cs : List Char) : Option Alteration :=
  wordings.findSome? fun w => (after? w.1 cs).bind w.2

end Wording

/-- How the two dialects alter the column itself. -/
def Dialect.alterationWordings : Dialect → List Wording
  | .postgres =>
    [.before "TYPE " .setType,.alone "SET NOT NULL" .forbidNull,.alone "DROP NOT NULL" .allowNull,
      .before "SET DEFAULT " .setDefault,.alone "DROP DEFAULT" .dropDefault]
  | .derby =>
    [.before "SET DATA TYPE " .setType,.alone "NOT NULL" .forbidNull,.alone "NULL" .allowNull,
      .before "DEFAULT " .setDefault,.alone "DROP DEFAULT" .dropDefault]
  | _ => []

/-- What follows the quoted name of a column, if it is the given one. -/
def behindColumn? (quote : Char) (column : String) : List Char → Option (List Char)
  | [] => none
  | c :: rest =>
    if c = quote then
      (readName? quote rest).bind fun p => if String.ofList p.1 = column then some p.2 else none
    else none

/-- How an action on a table alters the given column. -/
def Dialect.actionWordings (d : Dialect) (column : String) : List Wording :=
  [("ALTER COLUMN ",fun rest =>
      ((behindColumn? d.quoteChar column rest).bind (after? " ")).bind (Wording.read? d.alterationWordings)),
    ("ADD PRIMARY KEY (",fun rest =>
      if behindColumn? d.quoteChar column rest = some [')'] then some .addPrimaryKey else none),
    ("ADD UNIQUE (",fun rest =>
      if behindColumn? d.quoteChar column rest = some [')'] then some .addUnique else none),
    .around "ADD CHECK" .addCheck]

/-- How the parts behind the type declare a column inline. -/
def clauseWordings : List Wording :=
  [.before "DEFAULT " .setDefault,.alone "NOT NULL" .forbidNull,.alone "PRIMARY KEY" .addPrimaryKey,
    .alone "UNIQUE" .addUnique,.around "CHECK" .addCheck]

/-- The column after all that some texts say in the given wordings, if each of
    them says something. -/
def ColumnState.carryOut? (wordings : List Wording) (c : ColumnState) (texts : List String) : Option ColumnState :=
  texts.foldlM (fun state text => (Wording.read? wordings text.toList).map state.alter) c

/-- The header of a table with the actions on it: in PostgreSQL one statement
    with commas, in Derby a statement for each action. -/
def joinActions (d : Dialect) (header : String) (actions : List String) : String :=
  if d = .derby then ";\n".intercalate (actions.map (header ++ ·)) else header ++ ", ".intercalate actions

/-- The constraints that a definition declares. -/
def ColumnDefinition.declared (f : ColumnDefinition) : List ColumnConstraint :=
  (if f.primaryKey then [.primaryKey] else []) ++
  (if f.unique && !f.primaryKey then [.unique] else []) ++
  (f.check.map .check).toList

theorem after?_append (words : String) (rest : List Char) : after? words (words.toList ++ rest) = some rest :=
  List.isPrefixOf?_eq_some_iff_append_eq.mpr rfl

theorem after?_differ {v w : String} (different : Differ v w) (rest : List Char) :
    after? v (w.toList ++ rest) = none := by
  rw [← Option.not_isSome_iff_eq_none,Option.isSome_iff_exists]
  rintro ⟨more,found⟩
  have same : v.toList ++ more = w.toList ++ rest := List.isPrefixOf?_eq_some_iff_append_eq.mp found
  exact different (List.prefix_or_prefix_of_prefix (same ▸ List.prefix_append _ _) (List.prefix_append _ _))

/-- Wordings of which no two begin alike. -/
abbrev Wording.Told (wordings : List Wording) : Prop := wordings.Pairwise fun v w => Differ v.1 w.1

/-- What begins as one of the wordings is read in that one. -/
theorem Wording.read?_of_mem {wordings : List Wording} (told : Told wordings) {w : Wording} (member : w ∈ wordings)
    {rest : List Char} {x : Alteration} (meant : w.2 rest = some x) :
    read? wordings (w.1.toList ++ rest) = some x := by
  induction wordings with
  | nil => cases member
  | cons v wordings ih =>
    obtain ⟨first,others⟩ := List.pairwise_cons.mp told
    rw [read?,List.findSome?_cons]
    rcases List.mem_cons.mp member with rfl | later
    · rw [after?_append,Option.bind_some,meant]
    · rw [after?_differ (first w later)]
      exact ih others later

theorem behindColumn?_quoted (quote : Char) (column : String) (rest : List Char) (apart : rest.head? ≠ some quote) :
    behindColumn? quote column (quotedName quote column.toList ++ rest) = some rest := by
  have read := readName?_doubled quote column.toList rest apart
  simp [behindColumn?,quotedName,read]

theorem before_read (words : String) (x : String → Alteration) (t : String) :
    (Wording.before words x).2 t.toList = some (x t) := by
  simp [Wording.before]

theorem around_read (words : String) (x : String → Alteration) (t : String) :
    (Wording.around words x).2 (t.toList ++ [')']) = some (x t) := by
  simp [Wording.around]

theorem alterationWordings_told (d : Dialect) : Wording.Told d.alterationWordings := by
  cases d <;> decide

theorem actionWordings_told (d : Dialect) (column : String) : Wording.Told (d.actionWordings column) := by
  have openings : ["ALTER COLUMN ","ADD PRIMARY KEY (","ADD UNIQUE (","ADD CHECK" ++ " ("].Pairwise Differ := by
    decide
  exact List.pairwise_map.mp (show ((d.actionWordings column).map Prod.fst).Pairwise _ from openings)

theorem clauseWordings_told : Wording.Told clauseWordings := by decide

/-- How a dialect that names each alteration words it. -/
def Dialect.alterationWords : Dialect → AlterationWords
  | .derby => .derby
  | _ => .postgres

variable {d : Dialect}

/-- What is done to the column itself is read behind the name of the column. -/
theorem read_alterColumn (column : String) {w : Wording} (member : w ∈ d.alterationWordings)
    {rest : List Char} {x : Alteration} (meant : w.2 rest = some x) :
    Wording.read? (d.actionWordings column)
      ("ALTER COLUMN ".toList ++ (quotedName d.quoteChar column.toList ++ (" ".toList ++ (w.1.toList ++ rest)))) =
      some x := by
  refine Wording.read?_of_mem (actionWordings_told d column) List.mem_cons_self ?_
  have apart : (" ".toList ++ (w.1.toList ++ rest)).head? ≠ some d.quoteChar := by
    cases d <;> simp [Dialect.quoteChar]
  dsimp only
  rw [behindColumn?_quoted d.quoteChar column _ apart,Option.bind_some,after?_append,Option.bind_some]
  exact Wording.read?_of_mem (alterationWordings_told d) member meant

theorem behindColumn?_closed (column : String) :
    behindColumn? d.quoteChar column (quotedName d.quoteChar column.toList ++ [')']) = some [')'] :=
  behindColumn?_quoted d.quoteChar column [')'] (by cases d <;> decide)

theorem read_before (column : String) {words : String} {x : String → Alteration}
    (member : .before words x ∈ d.alterationWordings) (t : String) :
    Wording.read? (d.actionWordings column)
      (Statement.chars d.quoteChar [.words "ALTER COLUMN ",.name column,.words (" " ++ words ++ t)]) = some (x t) := by
  have read := read_alterColumn column member (before_read words x t)
  simpa [Statement.chars,Fragment.chars,Wording.before] using read

theorem read_alone (column : String) {words : String} {x : Alteration}
    (member : .alone words x ∈ d.alterationWordings) :
    Wording.read? (d.actionWordings column)
      (Statement.chars d.quoteChar [.words "ALTER COLUMN ",.name column,.words (" " ++ words)]) = some x := by
  have read := read_alterColumn column member (if_pos rfl)
  simpa [Statement.chars,Fragment.chars,Wording.alone] using read

/-- Every action is read as what it does to the column. -/
theorem read_action (alters : d = .postgres ∨ d = .derby) (column : String) (x : Alteration) :
    Wording.read? (d.actionWordings column)
      (Statement.chars d.quoteChar (x.action d.alterationWords (.name column))) = some x := by
  have told := actionWordings_told d column
  cases x with
  | setType t => rcases alters with rfl | rfl <;> exact read_before column List.mem_cons_self t
  | forbidNull => rcases alters with rfl | rfl <;> exact read_alone column (List.mem_of_getElem? (i := 1) rfl)
  | allowNull => rcases alters with rfl | rfl <;> exact read_alone column (List.mem_of_getElem? (i := 2) rfl)
  | setDefault v => rcases alters with rfl | rfl <;> exact read_before column (List.mem_of_getElem? (i := 3) rfl) v
  | dropDefault =>
    have member : .alone "DROP DEFAULT" .dropDefault ∈ d.alterationWordings := by
      rcases alters with rfl | rfl <;> exact List.mem_of_getElem? (i := 4) rfl
    have split : " DROP DEFAULT" = " " ++ "DROP DEFAULT" := rfl
    rw [Alteration.action,split]
    exact read_alone column member
  | addPrimaryKey =>
    have read := Wording.read?_of_mem told (List.mem_of_getElem? (i := 1) rfl) (if_pos (behindColumn?_closed column))
    simpa [Statement.chars,Alteration.action,Fragment.chars] using read
  | addUnique =>
    have read := Wording.read?_of_mem told (List.mem_of_getElem? (i := 2) rfl) (if_pos (behindColumn?_closed column))
    simpa [Statement.chars,Alteration.action,Fragment.chars] using read
  | addCheck c =>
    have read := Wording.read?_of_mem told (List.mem_of_getElem? (i := 3) rfl) (around_read "ADD CHECK" .addCheck c)
    simpa [Statement.chars,Alteration.action,Fragment.chars,Wording.around] using read

/-! ## Carrying out what is read -/

/-- Whether a text says in the given wordings that something is done. -/
def Says (wordings : List Wording) (text : String) (x : Alteration) : Prop :=
  Wording.read? wordings text.toList = some x

theorem carryOut?_says {wordings : List Wording} {texts : List String} {xs : List Alteration}
    (said : List.Forall₂ (Says wordings) texts xs) (c : ColumnState) :
    c.carryOut? wordings texts = some (xs.foldl ColumnState.alter c) := by
  induction said generalizing c with
  | nil => rfl
  | cons first _ ih =>
    rw [ColumnState.carryOut?,List.foldlM_cons,first,List.foldl_cons]
    exact ih _

theorem says_action (alters : d = .postgres ∨ d = .derby) (column : String) (xs : List Alteration) :
    List.Forall₂ (Says (d.actionWordings column))
      (xs.map fun x => Statement.text d.quoteChar (x.action d.alterationWords (.name column))) xs := by
  rw [List.forall₂_map_left_iff,List.forall₂_same]
  intro x _
  rw [Says,Statement.text,String.toList_ofList]
  exact read_action alters column x

/-- What the clauses behind the type do to a column that has nothing yet. -/
def ColumnDefinition.inlineAlterations (f : ColumnDefinition) : List Alteration :=
  (f.defaultValue.map .setDefault).toList ++ (if f.notNull then [.forbidNull] else []) ++ f.constraints

theorem says_before {words : String} {x : String → Alteration} (member : .before words x ∈ clauseWordings)
    (t : String) : Says clauseWordings (words ++ t) (x t) := by
  have read := Wording.read?_of_mem clauseWordings_told member (before_read words x t)
  simpa [Says,Wording.before] using read

theorem says_alone {words : String} {x : Alteration} (member : .alone words x ∈ clauseWordings) :
    Says clauseWordings words x := by
  have read := Wording.read?_of_mem clauseWordings_told member (if_pos rfl)
  simpa [Says,Wording.alone] using read

theorem says_check (c : String) : Says clauseWordings ("CHECK (" ++ c ++ ")") (.addCheck c) := by
  have read := Wording.read?_of_mem clauseWordings_told (List.mem_of_getElem? (i := 4) rfl)
    (around_read "CHECK" .addCheck c)
  simpa [Says,Wording.around] using read

theorem says_clauses (f : ColumnDefinition) : List.Forall₂ (Says clauseWordings) f.clauses f.inlineAlterations := by
  have optional : ∀ (present : Bool) {t : String} {x : Alteration}, Says clauseWordings t x →
      List.Forall₂ (Says clauseWordings) (if present then [t] else []) (if present then [x] else []) := by
    intro present t x said
    cases present
    · exact .nil
    · exact .cons said .nil
  have default : List.Forall₂ (Says clauseWordings) (f.defaultValue.map ("DEFAULT " ++ ·)).toList
      (f.defaultValue.map .setDefault).toList := by
    cases f.defaultValue with
    | none => exact .nil
    | some v => exact .cons (says_before List.mem_cons_self v) .nil
  have check : List.Forall₂ (Says clauseWordings) (f.check.map fun c => "CHECK (" ++ c ++ ")").toList
      (f.check.map .addCheck).toList := by
    cases f.check with
    | none => exact .nil
    | some c => exact .cons (says_check c) .nil
  have notNull := optional f.notNull (says_alone (List.mem_of_getElem? (i := 1) rfl))
  have primaryKey := optional f.primaryKey (says_alone (List.mem_of_getElem? (i := 2) rfl))
  have unique := optional f.isUnique (says_alone (List.mem_of_getElem? (i := 3) rfl))
  simp only [ColumnDefinition.clauses,ColumnDefinition.inlineAlterations,ColumnDefinition.constraints,List.append_assoc]
  exact List.rel_append default (List.rel_append notNull (List.rel_append primaryKey (List.rel_append unique check)))

/-- The constraints of a definition are added to those that are there. -/
theorem alter_constraints (f : ColumnDefinition) (c : ColumnState) :
    f.constraints.foldl ColumnState.alter c = { c with constraints := c.constraints ++ f.declared } := by
  obtain ⟨_,_,_,_,_,_,primaryKey,unique,check⟩ := f
  simp only [ColumnDefinition.constraints,ColumnDefinition.declared,ColumnDefinition.isUnique,List.foldl_append]
  cases primaryKey <;> cases unique <;> cases check <;> simp [ColumnState.alter]

/-- Type, null and default are set whatever they were before. -/
theorem alter_alterations {f : ColumnDefinition} {t : String} (renders : f.typeText = .ok t) :
    ∃ xs, f.alterations = .ok xs ∧ ∀ before : ColumnState,
      xs.foldl ColumnState.alter before = ⟨t,f.notNull,f.defaultValue,before.constraints ++ f.declared⟩ := by
  refine ⟨_,by rw [ColumnDefinition.alterations,renders,Except.map],?_⟩
  intro before
  rw [List.foldl_append,alter_constraints]
  cases f.notNull <;> cases f.defaultValue <;> rfl

theorem alter_inline (f : ColumnDefinition) (t : String) :
    f.inlineAlterations.foldl ColumnState.alter ⟨t,false,none,[]⟩ = ⟨t,f.notNull,f.defaultValue,f.declared⟩ := by
  rw [ColumnDefinition.inlineAlterations,List.foldl_append,alter_constraints]
  cases f.notNull <;> cases f.defaultValue <;> rfl

/-- The text for a table is its header with the actions. -/
theorem text_alterColumn {a : Adapter} (alters : a.dialect = .postgres ∨ a.dialect = .derby) (schema : Option String)
    (table column : String) {f : ColumnDefinition} {xs : List Alteration} (needed : f.alterations = .ok xs) :
    ∃ s, a.alterColumn schema table column f = .ok s ∧
      a.text s = joinActions a.dialect ("ALTER TABLE " ++ a.text (a.tableName schema table) ++ " ")
        (xs.map fun x => a.text (x.action a.dialect.alterationWords (a.name column))) := by
  have header : a.text (a.alterTable schema table) = "ALTER TABLE " ++ a.text (a.tableName schema table) ++ " " := by
    simp only [Adapter.text,Adapter.alterTable,text_append,text_words]
  rw [← header]
  have enforced : a.refuseCheck f = .ok () := by
    rcases alters with same | same <;> simp [Adapter.refuseCheck,Dialect.supportsChecks,same]
  rcases alters with same | same
  · have written : a.alterColumn schema table column f = .ok (a.alterTable schema table ++
        Statement.separated ", " (xs.map fun x => x.action .postgres (a.name column))) := by
      simp only [Adapter.alterColumn,same,enforced,needed]
      rfl
    refine ⟨_,written,?_⟩
    simp only [Adapter.text,text_append,text_separated,List.map_map,joinActions,same,reduceCtorEq,if_false]
    rfl
  · have written : a.alterColumn schema table column f = .ok (Statement.separated ";\n"
        (xs.map fun x => a.alterTable schema table ++ x.action .derby (a.name column))) := by
      simp only [Adapter.alterColumn,same,enforced,needed]
      rfl
    refine ⟨_,written,?_⟩
    have each : ∀ x : Alteration, a.text (a.alterTable schema table ++ x.action .derby (a.name column)) =
        a.text (a.alterTable schema table) ++ a.text (x.action .derby (a.name column)) :=
      fun x => text_append _ _ _
    rw [joinActions,if_pos same,same,Adapter.text,text_separated,List.map_map,List.map_map]
    exact congrArg _ (List.map_congr_left fun x _ => each x)

/-- Whatever a column was, the actions on it make it what the definition says,
    and add the constraints that the definition declares inline. -/
theorem alterColumn_reaches_definition {a : Adapter} (alters : a.dialect = .postgres ∨ a.dialect = .derby)
    (schema : Option String) (table column : String) {f : ColumnDefinition} {t : String} (renders : f.typeText = .ok t) :
    (∃ s actions, a.alterColumn schema table column f = .ok s ∧
      a.text s = joinActions a.dialect ("ALTER TABLE " ++ a.text (a.tableName schema table) ++ " ") actions ∧
      ∀ before : ColumnState, before.carryOut? (a.dialect.actionWordings (a.dialect.fold column)) actions =
        some ⟨t,f.notNull,f.defaultValue,before.constraints ++ f.declared⟩) ∧
    (∀ name, f.sql name = .ok (" ".intercalate (name :: t :: f.clauses))) ∧
    ColumnState.carryOut? clauseWordings ⟨t,false,none,[]⟩ f.clauses =
      some ⟨t,f.notNull,f.defaultValue,f.declared⟩ := by
  obtain ⟨xs,needed,reached⟩ := alter_alterations renders
  obtain ⟨s,written,text⟩ := text_alterColumn alters schema table column needed
  refine ⟨⟨s,_,written,text,?_⟩,?_,?_⟩
  · intro before
    rw [← reached before]
    exact carryOut?_says (says_action alters (a.dialect.fold column) xs) before
  · intro name
    rw [ColumnDefinition.sql,ColumnDefinition.text,renders]
    simp [Except.map,String.intercalate_cons_cons]
  · rw [← alter_inline f t]
    exact carryOut?_says (says_clauses f) _

/-- A column with everything that there is, changed in Derby from one that
    differs in all of it. -/
theorem alterColumn_reaches_amount :
    ∃ s actions,
      Adapter.alterColumn ⟨.derby,⟨some "s",true⟩⟩ none "t" "c"
          ⟨"decimal",Capabilities.scalar.withPrecision .optional,some "zerofill",some (.precision 10 (some 2)),
            some "0",true,true,true,some "c > 0"⟩ = .ok s ∧
      Adapter.text ⟨.derby,⟨some "s",true⟩⟩ s = joinActions .derby "ALTER TABLE \"S\".\"T\" " actions ∧
      ColumnState.carryOut? (Dialect.derby.actionWordings "C") ⟨"int",false,some "1",[.unique]⟩ actions =
        some ⟨"decimal(10, 2) zerofill",true,some "0",[.unique,.primaryKey,.check "c > 0"]⟩ := by
  have renders : (ColumnDefinition.mk "decimal" (Capabilities.scalar.withPrecision .optional) (some "zerofill")
      (some (.precision 10 (some 2))) (some "0") true true true (some "c > 0")).typeText =
        .ok "decimal(10, 2) zerofill" := by
    decide +kernel
  have table : Adapter.text ⟨.derby,⟨some "s",true⟩⟩ (Adapter.tableName ⟨.derby,⟨some "s",true⟩⟩ none "t") =
      "\"S\".\"T\"" := by
    decide +kernel
  have stored : Dialect.derby.fold "c" = "C" := by decide +kernel
  obtain ⟨⟨s,actions,written,text,carried⟩,_⟩ := alterColumn_reaches_definition (a := ⟨.derby,⟨some "s",true⟩⟩)
    (.inr rfl) none "t" "c" renders
  rw [table] at text
  rw [stored] at carried
  exact ⟨s,actions,written,text,carried _⟩

end PortableDdl
