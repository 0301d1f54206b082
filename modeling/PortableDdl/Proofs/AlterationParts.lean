import PortableDdl.Proofs.ColumnState

/-!
# Alterations that are taken apart

Derby is given one statement for each thing that is done to a column, with a
semicolon and a line break between any two. A text that is cut wherever the two
stand gives these statements back, if they stand in nothing that was given: they
do not come about where one piece of a statement meets the next.
-/

namespace PortableDdl

namespace Text

/-- The parts of a text between the places where one character is followed by
    another, from left to right. -/
def cutAtPairs (a b : Char) : List Char → List (List Char)
  | c :: d :: rest =>
    if c = a ∧ d = b then [] :: cutAtPairs a b rest
    else (cutAtPairs a b (d :: rest)).modifyHead (c :: ·)
  | cs => [cs]

variable {a b : Char}

theorem pair_infix_cons_cons {c d : Char} {rest : List Char} :
    [a,b] <:+: c :: d :: rest ↔ (c = a ∧ d = b) ∨ [a,b] <:+: d :: rest := by
  rw [List.infix_cons_iff,List.cons_prefix_cons,List.cons_prefix_cons]
  simp [eq_comm]

theorem pair_absent_iff {cs : List Char} : ¬ [a,b] <:+: cs ↔ cs.IsChain fun c d => ¬ (c = a ∧ d = b) := by
  induction cs with
  | nil => simp
  | cons c cs ih =>
    cases cs with
    | nil =>
      have short : ¬ [a,b] <:+: [c] := fun inside => by simpa using inside.length_le
      simp [short]
    | cons d cs => rw [pair_infix_cons_cons,not_or,ih,List.isChain_cons_cons]

theorem cutAtPairs_whole {part : List Char} (whole : ¬ [a,b] <:+: part) : cutAtPairs a b part = [part] := by
  induction part with
  | nil => rfl
  | cons c part ih =>
    cases part with
    | nil => rfl
    | cons d rest =>
      rw [pair_infix_cons_cons,not_or] at whole
      rw [cutAtPairs,if_neg whole.1,ih whole.2]
      rfl

/-- The first part ends at the pair, also if its own last character is the first
    one of the pair. -/
theorem cutAtPairs_append (different : a ≠ b) {part : List Char} (whole : ¬ [a,b] <:+: part) (rest : List Char) :
    cutAtPairs a b (part ++ a :: b :: rest) = part :: cutAtPairs a b rest := by
  induction part with
  | nil => simp [cutAtPairs]
  | cons c part ih =>
    cases part with
    | nil => simp [cutAtPairs,different]
    | cons d part =>
      rw [pair_infix_cons_cons,not_or] at whole
      have later := ih whole.2
      rw [List.cons_append] at later
      rw [List.cons_append,List.cons_append,cutAtPairs,if_neg whole.1,later]
      rfl

theorem cutAtPairs_intercalate (different : a ≠ b) {parts : List (List Char)} (some : parts ≠ [])
    (whole : ∀ part ∈ parts, ¬ [a,b] <:+: part) : cutAtPairs a b ([a,b].intercalate parts) = parts := by
  induction parts with
  | nil => exact absurd rfl some
  | cons first parts ih =>
    obtain ⟨firstWhole,others⟩ := List.forall_mem_cons.mp whole
    cases parts with
    | nil =>
      rw [List.intercalate_singleton]
      exact cutAtPairs_whole firstWhole
    | cons second parts =>
      have later := ih (List.cons_ne_nil second parts) others
      rw [List.intercalate_cons_cons,List.append_assoc]
      exact (cutAtPairs_append different firstWhole _).trans (congrArg (first :: ·) later)

end Text

open Sql

/-- Whether what stands between two statements does not stand in a text. -/
def Unbroken (t : String) : Prop := ¬ ";\n".toList <:+: t.toList

/-- The statements in a text. -/
def statements (t : String) : List String := (Text.cutAtPairs ';' '\n' t.toList).map String.ofList

theorem statements_intercalate {parts : List String} (some : parts ≠ []) (unbroken : ∀ part ∈ parts, Unbroken part) :
    statements (";\n".intercalate parts) = parts := by
  have whole : ∀ part ∈ parts.map String.toList, ¬ [';','\n'] <:+: part := by
    intro part member
    obtain ⟨t,listed,rfl⟩ := List.mem_map.mp member
    exact unbroken t listed
  have cut := Text.cutAtPairs_intercalate (by decide) (by simpa using some) whole
  rw [statements,String.toList_intercalate]
  refine (congrArg _ cut).trans ?_
  simp

theorem unbroken_iff {t : String} : Unbroken t ↔ t.toList.IsChain fun c d => ¬ (c = ';' ∧ d = '\n') :=
  Text.pair_absent_iff

-- By the neighbours, since the search for a part of a list is slow in long texts.
instance (t : String) : Decidable (Unbroken t) := decidable_of_iff _ unbroken_iff.symm

/-- Nothing breaks where a text meets another one, but for a semicolon in front
    of a line break. -/
theorem unbroken_append {s t : String} (left : Unbroken s) (right : Unbroken t)
    (seam : s.toList.getLast? ≠ some ';' ∨ t.toList.head? ≠ some '\n') : Unbroken (s ++ t) := by
  rw [unbroken_iff,String.toList_append,List.isChain_append]
  refine ⟨unbroken_iff.mp left,unbroken_iff.mp right,?_⟩
  rintro c ends d begins ⟨rfl,rfl⟩
  rcases seam with seam | seam
  · exact seam ends
  · exact seam begins

/-- A text that can stand next to any other without a break. -/
structure Firm (t : String) : Prop where
  there : t ≠ ""
  unbroken : Unbroken t
  begins : t.toList.head? ≠ some '\n'
  ends : t.toList.getLast? ≠ some ';'

theorem firm_iff {t : String} :
    Firm t ↔ t ≠ "" ∧ Unbroken t ∧ t.toList.head? ≠ some '\n' ∧ t.toList.getLast? ≠ some ';' :=
  ⟨fun firm => ⟨firm.there,firm.unbroken,firm.begins,firm.ends⟩,
    fun ⟨there,unbroken,begins,ends⟩ => ⟨there,unbroken,begins,ends⟩⟩

instance (t : String) : Decidable (Firm t) := decidable_of_iff _ firm_iff.symm

theorem Firm.before {s t : String} (firm : Firm s) (unbroken : Unbroken t) : Unbroken (s ++ t) :=
  unbroken_append firm.unbroken unbroken (.inl firm.ends)

theorem Firm.behind {s t : String} (firm : Firm t) (unbroken : Unbroken s) : Unbroken (s ++ t) :=
  unbroken_append unbroken firm.unbroken (.inr firm.begins)

theorem Firm.append {s t : String} (left : Firm s) (right : Firm t) : Firm (s ++ t) where
  there := by simp [left.there]
  unbroken := left.before right.unbroken
  begins := by
    rw [String.toList_append,List.head?_append_of_ne_nil _ (by simpa using left.there)]
    exact left.begins
  ends := by
    rw [String.toList_append,List.getLast?_append_of_ne_nil _ (by simpa using right.there)]
    exact right.ends

/-- What Derby is told of a column itself: its type, whether it may be null, and its
    default. -/
def columnChanges (type : String) (f : ColumnDefinition) : List String :=
  ["SET DATA TYPE " ++ type,if f.notNull then "NOT NULL" else "NULL",
    f.defaultValue.elim "DROP DEFAULT" ("DEFAULT " ++ ·)]

/-- The constraints that are added with a column. -/
def constraintAdditions (column : String) (f : ColumnDefinition) : List String :=
  (if f.primaryKey then ["PRIMARY KEY (" ++ column ++ ")"] else []) ++
  (if f.unique && !f.primaryKey then ["UNIQUE (" ++ column ++ ")"] else []) ++
  (f.check.map fun condition => "CHECK (" ++ condition ++ ")").toList

/-- The statements for a column, each about the same table. -/
def alterationStatements (table column type : String) (f : ColumnDefinition) : List String :=
  ((columnChanges type f).map ("ALTER COLUMN " ++ column ++ " " ++ ·) ++
    (constraintAdditions column f).map ("ADD " ++ ·)).map ("ALTER TABLE " ++ table ++ " " ++ ·)

/-- Whether what stands between two statements stands in nothing that is given for
    an alteration. -/
structure Separable (a : Adapter) (schema : Option String) (table column : String) (f : ColumnDefinition) : Prop where
  schema : ∀ s ∈ a.effectiveSchema schema, Unbroken (a.text [a.name s])
  table : Unbroken (a.text [a.name table])
  column : Unbroken (a.text [a.name column])
  baseType : Unbroken f.baseType
  suffix : ∀ s ∈ f.suffix, Unbroken s
  defaultValue : ∀ v ∈ f.defaultValue, Unbroken v
  check : ∀ c ∈ f.check, Unbroken c

variable {a : Adapter} {schema : Option String} {table column type : String} {f : ColumnDefinition}

theorem firm_name {n : String} (unbroken : Unbroken (a.text [a.name n])) : Firm (a.text [a.name n]) := by
  have quoted : (a.text [a.name n]).toList = a.dialect.quoteChar ::
      (doubled (· == a.dialect.quoteChar) (a.dialect.fold n).toList ++ [a.dialect.quoteChar]) := by
    simp [Adapter.text,Statement.text,Statement.chars,Adapter.name,Fragment.chars,quotedName]
  refine ⟨?_,unbroken,?_,?_⟩
  · rw [← String.toList_inj.ne,quoted]
    exact List.cons_ne_nil _ _
  · rw [quoted,List.head?_cons]
    cases a.dialect <;> decide
  · rw [quoted,← List.cons_append,List.getLast?_concat]
    cases a.dialect <;> decide

theorem firm_table (schemaUnbroken : ∀ s ∈ a.effectiveSchema schema, Unbroken (a.text [a.name s]))
    (tableUnbroken : Unbroken (a.text [a.name table])) : Firm (a.text (a.tableName schema table)) := by
  have name := firm_name tableUnbroken
  rw [Adapter.tableName,Adapter.qualifiedName]
  cases effective : a.effectiveSchema schema with
  | none => exact name
  | some s =>
    have before := firm_name (schemaUnbroken s effective)
    have point : Firm "." := by decide
    have text : a.text [a.name s,.words ".",a.name table] = a.text [a.name s] ++ ("." ++ a.text [a.name table]) := by
      rw [← text_words a.dialect.quoteChar ".",Adapter.text,Adapter.text,Adapter.text,← text_append,← text_append]
      rfl
    rw [text]
    exact before.append (point.append name)

theorem firm_decimal (n : UInt32) : Firm (Text.decimal n) := by
  have digits : ∀ c ∈ (Text.decimal n).toList, c.isDigit = true := by
    intro c member
    rw [Text.decimal,Nat.toList_repr] at member
    exact Nat.isDigit_of_mem_toDigits (by decide) (by decide) member
  have noBreak : '\n' ∉ (Text.decimal n).toList := fun member => absurd (digits _ member) (by decide)
  have noSemicolon : ';' ∉ (Text.decimal n).toList := fun member => absurd (digits _ member) (by decide)
  refine ⟨?_,?_,?_,?_⟩
  · rw [← String.toList_inj.ne,Text.decimal,Nat.toList_repr]
    exact Nat.toDigits_ne_nil
  · exact fun broken => noBreak (broken.subset (by decide))
  · exact fun begins => noBreak (List.mem_of_head? begins)
  · exact fun ends => noSemicolon (List.mem_of_getLast? ends)

theorem firm_limit (l : Limit) : Firm l.sql := by
  have opened : Firm "(" := by decide
  have closed : Firm ")" := by decide
  have comma : Firm ", " := by decide
  match l with
  | .length n => exact (opened.append (firm_decimal n)).append closed
  | .precision p none => exact (opened.append (firm_decimal p)).append closed
  | .precision p (some s) =>
    exact (((opened.append (firm_decimal p)).append comma).append (firm_decimal s)).append closed

theorem unbroken_type (renders : f.typeText = .ok type) (base : Unbroken f.baseType) (suffix : ∀ s ∈ f.suffix, Unbroken s) :
    Unbroken type := by
  rw [ColumnDefinition.typeText] at renders
  split at renders
  · cases renders
  · obtain rfl := Except.ok.inj renders
    have limited : Unbroken (f.baseType ++ f.limit.elim "" Limit.sql) := by
      cases f.limit with
      | none => simpa using base
      | some l => exact (firm_limit l).behind base
    cases behind : f.suffix with
    | none => simpa using limited
    | some s =>
      have space : Firm " " := by decide
      exact unbroken_append limited (space.before (suffix s behind)) (.inr (by simp))

theorem unbroken_change (typeUnbroken : Unbroken type) (default : ∀ v ∈ f.defaultValue, Unbroken v) :
    ∀ t ∈ columnChanges type f, Unbroken t := by
  have setType : Firm "SET DATA TYPE " := by decide
  have setDefault : Firm "DEFAULT " := by decide
  intro t member
  simp only [columnChanges,List.mem_cons,List.not_mem_nil,or_false] at member
  rcases member with rfl | rfl | rfl
  · exact setType.before typeUnbroken
  · cases f.notNull <;> decide
  · cases given : f.defaultValue with
    | none => decide
    | some v => exact setDefault.before (default v given)

theorem unbroken_addition (columnFirm : Firm column) (check : ∀ c ∈ f.check, Unbroken c) :
    ∀ t ∈ constraintAdditions column f, Unbroken t := by
  have primaryKey : Firm "PRIMARY KEY (" := by decide
  have unique : Firm "UNIQUE (" := by decide
  have condition : Firm "CHECK (" := by decide
  have closed : Firm ")" := by decide
  intro t member
  rw [constraintAdditions,List.mem_append,List.mem_append] at member
  rcases member with (member | member) | member
  · obtain ⟨_,listed⟩ := List.mem_ite_nil_right.mp member
    obtain rfl := List.mem_singleton.mp listed
    exact closed.behind (primaryKey.before columnFirm.unbroken)
  · obtain ⟨_,listed⟩ := List.mem_ite_nil_right.mp member
    obtain rfl := List.mem_singleton.mp listed
    exact closed.behind (unique.before columnFirm.unbroken)
  · obtain ⟨c,given,rfl⟩ := Option.map_eq_some_iff.mp (Option.mem_toList.mp member)
    exact closed.behind (condition.before (check c given))

/-- No statement is broken if nothing is that is given for it. -/
theorem unbroken_statements (separable : Separable a schema table column f) (renders : f.typeText = .ok type) :
    ∀ t ∈ alterationStatements (a.text (a.tableName schema table)) (a.text [a.name column]) type f, Unbroken t := by
  have opening : Firm "ALTER TABLE " := by decide
  have altering : Firm "ALTER COLUMN " := by decide
  have adding : Firm "ADD " := by decide
  have space : Firm " " := by decide
  have columnFirm := firm_name separable.column
  have header := (opening.append (firm_table separable.schema separable.table)).append space
  have typeUnbroken := unbroken_type renders separable.baseType separable.suffix
  intro t member
  obtain ⟨action,listed,rfl⟩ := List.mem_map.mp member
  refine header.before ?_
  rcases List.mem_append.mp listed with listed | listed
  · obtain ⟨change,told,rfl⟩ := List.mem_map.mp listed
    have before := (altering.append columnFirm).append space
    exact before.before (unbroken_change typeUnbroken separable.defaultValue change told)
  · obtain ⟨addition,told,rfl⟩ := List.mem_map.mp listed
    exact adding.before (unbroken_addition columnFirm separable.check addition told)

theorem text_around_name (before n behind : String) :
    a.text [.words before,a.name n,.words behind] = before ++ a.text [a.name n] ++ behind := by
  rw [Adapter.text,Adapter.text,← text_words a.dialect.quoteChar before,← text_words a.dialect.quoteChar behind,
    ← text_append,← text_append,text_words,text_words]
  rfl

theorem text_change (n words : String) :
    a.text [.words "ALTER COLUMN ",a.name n,.words (" " ++ words)] =
      "ALTER COLUMN " ++ a.text [a.name n] ++ " " ++ words := by
  rw [text_around_name]
  simp only [String.append_assoc]

theorem text_changes (f : ColumnDefinition) :
    [.setType type,if f.notNull then .forbidNull else .allowNull,f.defaultValue.elim .dropDefault .setDefault].map
        (fun x : Alteration => a.text (x.action .derby (a.name column))) =
      (columnChanges type f).map ("ALTER COLUMN " ++ a.text [a.name column] ++ " " ++ ·) := by
  have setType := text_change (a := a) column ("SET DATA TYPE " ++ type)
  have notNull : a.text ((if f.notNull then Alteration.forbidNull else .allowNull).action .derby (a.name column)) =
      "ALTER COLUMN " ++ a.text [a.name column] ++ " " ++ (if f.notNull then "NOT NULL" else "NULL") := by
    cases f.notNull
    · exact text_change column "NULL"
    · exact text_change column "NOT NULL"
  have default : a.text ((f.defaultValue.elim Alteration.dropDefault .setDefault).action .derby (a.name column)) =
      "ALTER COLUMN " ++ a.text [a.name column] ++ " " ++ f.defaultValue.elim "DROP DEFAULT" ("DEFAULT " ++ ·) := by
    cases f.defaultValue with
    | none => exact text_change column "DROP DEFAULT"
    | some v => exact text_change column ("DEFAULT " ++ v)
  simp only [columnChanges,List.map_cons,List.map_nil,notNull,default,← setType]
  rfl

theorem text_additions (f : ColumnDefinition) :
    f.constraints.map (fun x => a.text (x.action .derby (a.name column))) =
      (constraintAdditions (a.text [a.name column]) f).map ("ADD " ++ ·) := by
  have key : ∀ words, a.text [.words ("ADD " ++ words),a.name column,.words ")"] =
      "ADD " ++ (words ++ a.text [a.name column] ++ ")") := by
    intro words
    rw [text_around_name]
    simp only [String.append_assoc]
  have condition : ∀ c, a.text [.words ("ADD CHECK (" ++ c ++ ")")] = "ADD " ++ ("CHECK (" ++ c ++ ")") := by
    intro c
    rw [Adapter.text,text_words,← String.append_assoc,← String.append_assoc]
    rfl
  simp only [ColumnDefinition.constraints,constraintAdditions,List.map_append]
  refine congrArg₂ _ (congrArg₂ _ ?_ ?_) ?_
  · cases f.primaryKey
    · rfl
    · exact congrArg (fun text => [text]) (key "PRIMARY KEY (")
  · rw [ColumnDefinition.isUnique]
    cases f.unique && !f.primaryKey
    · rfl
    · exact congrArg (fun text => [text]) (key "UNIQUE (")
  · cases f.check with
    | none => rfl
    | some c => exact congrArg (fun text => [text]) (condition c)

/-! ## Cutting the text -/

theorem text_derbyAlteration (derby : a.dialect = .derby) (schema : Option String) (table column : String)
    (renders : f.typeText = .ok type) : ∃ s, a.alterColumn schema table column f = .ok s ∧ a.text s = ";\n".intercalate
      (alterationStatements (a.text (a.tableName schema table)) (a.text [a.name column]) type f) := by
  have needed : f.alterations = .ok ([.setType type,if f.notNull then .forbidNull else .allowNull,
      f.defaultValue.elim .dropDefault .setDefault] ++ f.constraints) := by
    rw [ColumnDefinition.alterations,renders]
    rfl
  obtain ⟨s,written,text⟩ := text_alterColumn (.inr derby) schema table column needed
  refine ⟨s,written,?_⟩
  rw [text,joinActions,if_pos derby,derby,alterationStatements,← text_changes,← text_additions,← List.map_append]
  rfl

theorem length_alterationStatements (table column type : String) (f : ColumnDefinition) :
    (alterationStatements table column type f).length = 3 + (if f.primaryKey then 1 else 0) +
      (if f.unique && !f.primaryKey then 1 else 0) + (if f.check.isSome then 1 else 0) := by
  have optional : ∀ (present : Bool) (t : String), (if present then [t] else []).length = if present then 1 else 0 := by
    intro present t
    cases present <;> rfl
  have check : (f.check.map fun c => "CHECK (" ++ c ++ ")").toList.length = if f.check.isSome then 1 else 0 := by
    cases f.check <;> rfl
  have changes : (columnChanges type f).length = 3 := rfl
  simp only [alterationStatements,constraintAdditions,List.length_map,List.length_append,changes,optional,check,Nat.add_assoc]

theorem header_of_statement {t : String} (member : t ∈ alterationStatements table column type f) :
    ("ALTER TABLE " ++ table ++ " ").toList <+: t.toList := by
  obtain ⟨action,_,rfl⟩ := List.mem_map.mp member
  exact ⟨action.toList,String.toList_append.symm⟩

/-- A text that alters a column in Derby is cut into its statements again: one for
    the type, one for nulls and one for the default, then one for each constraint,
    all about the same table. -/
theorem alteration_cut_into_statements (derby : a.dialect = .derby) (renders : f.typeText = .ok type)
    (separable : Separable a schema table column f) :
    ∃ s, a.alterColumn schema table column f = .ok s ∧
      statements (a.text s) = alterationStatements (a.text (a.tableName schema table)) (a.text [a.name column]) type f ∧
      (statements (a.text s)).length = 3 + (if f.primaryKey then 1 else 0) +
        (if f.unique && !f.primaryKey then 1 else 0) + (if f.check.isSome then 1 else 0) ∧
      ∀ t ∈ statements (a.text s), ("ALTER TABLE " ++ a.text (a.tableName schema table) ++ " ").toList <+: t.toList := by
  obtain ⟨s,written,text⟩ := text_derbyAlteration derby schema table column renders
  have cut : statements (a.text s) =
      alterationStatements (a.text (a.tableName schema table)) (a.text [a.name column]) type f := by
    rw [text]
    refine statements_intercalate ?_ (unbroken_statements separable renders)
    simp [alterationStatements,columnChanges]
  refine ⟨s,written,cut,?_,?_⟩
  · rw [cut]
    exact length_alterationStatements _ _ _ f
  · intro t member
    rw [cut] at member
    exact header_of_statement member

/-- Parts that end in a semicolon or begin with a line break leave the statements
    whole. -/
theorem alteration_cut_into_statements_of_edges :
    ∃ s, Adapter.alterColumn ⟨.derby,⟨some "s",true⟩⟩ none "t;" "c"
          ⟨"int;",.scalar,some "\nx;",none,some "\n0;",true,true,true,some "\n1;"⟩ = .ok s ∧
      statements (Adapter.text ⟨.derby,⟨some "s",true⟩⟩ s) =
        ["ALTER TABLE \"S\".\"T;\" ALTER COLUMN \"C\" SET DATA TYPE int; \nx;",
          "ALTER TABLE \"S\".\"T;\" ALTER COLUMN \"C\" NOT NULL",
          "ALTER TABLE \"S\".\"T;\" ALTER COLUMN \"C\" DEFAULT \n0;",
          "ALTER TABLE \"S\".\"T;\" ADD PRIMARY KEY (\"C\")",
          "ALTER TABLE \"S\".\"T;\" ADD CHECK (\n1;)"] := by
  have renders : (ColumnDefinition.mk "int;" .scalar (some "\nx;") none (some "\n0;") true true true
      (some "\n1;")).typeText = .ok "int; \nx;" := by
    decide +kernel
  have separable : Separable ⟨.derby,⟨some "s",true⟩⟩ none "t;" "c"
      ⟨"int;",.scalar,some "\nx;",none,some "\n0;",true,true,true,some "\n1;"⟩ := by
    refine ⟨?_,by decide +kernel,by decide +kernel,by decide,?_,?_,?_⟩
    · rintro _ ⟨⟩
      decide +kernel
    · rintro _ ⟨⟩
      decide
    · rintro _ ⟨⟩
      decide
    · rintro _ ⟨⟩
      decide
  have table : Adapter.text ⟨.derby,⟨some "s",true⟩⟩ (Adapter.tableName ⟨.derby,⟨some "s",true⟩⟩ none "t;") =
      "\"S\".\"T;\"" := by
    decide +kernel
  have column : Adapter.text ⟨.derby,⟨some "s",true⟩⟩ [Adapter.name ⟨.derby,⟨some "s",true⟩⟩ "c"] = "\"C\"" := by
    decide +kernel
  obtain ⟨s,written,cut,_⟩ := alteration_cut_into_statements rfl renders separable
  rw [table,column] at cut
  exact ⟨s,written,cut.trans (by decide +kernel)⟩

end PortableDdl
