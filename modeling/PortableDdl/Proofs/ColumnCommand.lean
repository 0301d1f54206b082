import PortableDdl.Proofs.ColumnArguments
import PortableDdl.Proofs.CommandOutcome
import PortableDdl.Proofs.LimitText
import PortableDdl.Proofs.Reader

/-!
# The command for columns

What the arguments ask for reaches the column by one change after another, and
the first that is refused ends the command. A column that is written carries
every number of its limit as it is.
-/

namespace PortableDdl

namespace ColumnDefinition

/-- The definition after some changes, or why the first refused one of them is
    refused. -/
def changed (d : ColumnDefinition) (cs : List ColumnChange) : Except DdlError ColumnDefinition := cs.foldlM change d

/-- Changes that are all taken leave what they bring. -/
theorem eq_foldl_of_changed {d e : ColumnDefinition} {cs : List ColumnChange} (made : d.changed cs = .ok e) :
    e = cs.foldl holding d := by
  induction cs generalizing d with
  | nil => exact (Except.ok.inj made).symm
  | cons c cs ih =>
    obtain ⟨f,first,rest⟩ := bind_ok_iff.mp made
    rw [List.foldl_cons,← (change_ok_iff.mp first).2]
    exact ih rest

end ColumnDefinition

namespace CommandLine

namespace ColumnRequest

/-- The limit that a request asks for. Beside a length a scale counts for nothing. -/
def asked (r : ColumnRequest) : Option Limit :=
  match r.limit, r.precision with
  | some n, _ => some (.length n)
  | none, some p => some (.precision p r.scale)
  | none, none => none

/-- The changes that a request makes of the column of its type, one limit at
    most. -/
def changes (r : ColumnRequest) : List ColumnChange :=
  (r.asked.map .limit).toList ++ (r.defaultValue.map .defaultValue).toList ++ (if r.notNull then [.notNull] else [])

/-- What becomes of a request: the column of its type and its character set, the
    changes one after another, and its name. -/
def statement (r : ColumnRequest) (a : Adapter) : Except DdlError Sql.Statement := do
  let base ← (a.dialect.columnDefinition r.type r.characterSet).value
  let d ← base.changed r.changes
  a.column r.name d

/-- The limit as it is written, each number in decimal. -/
def limitText (r : ColumnRequest) : String :=
  r.asked.elim "" fun l => "(" ++ ", ".intercalate (l.numbers.map Nat.repr) ++ ")"

/-- What is written behind the type. -/
def clauses (r : ColumnRequest) : List String :=
  (r.defaultValue.map ("DEFAULT " ++ ·)).toList ++ (if r.notNull then ["NOT NULL"] else [])

/-- Whether a text is that of a request, for the column of its type. -/
def Writes (r : ColumnRequest) (a : Adapter) (base : ColumnDefinition) (text : String) : Prop :=
  text = a.text [a.name r.name] ++ " " ++
    " ".intercalate ((base.baseType ++ r.limitText ++ base.suffix.elim "" (" " ++ ·)) :: r.clauses)

variable {r : ColumnRequest} {a : Adapter} {base d : ColumnDefinition}

theorem foldlM_toList (d : ColumnDefinition) (c : Option ColumnChange) :
    c.toList.foldlM ColumnDefinition.change d = c.elim (.ok d) d.change := by
  cases c with
  | none => rfl
  | some c => exact bind_pure _

/-- Of the two limits that a column may be given one after the other, one is missing,
    so that none overrules another. -/
theorem definition_eq_changed (oneLimit : r.limit = none ∨ r.precision = none) (d : ColumnDefinition) :
    r.definition d = d.changed r.changes := by
  have last (f : ColumnDefinition) : (if r.notNull then [ColumnChange.notNull] else []).foldlM ColumnDefinition.change f =
      .ok (if r.notNull then f.withNotNull else f) := by
    cases r.notNull <;> rfl
  rw [definition,changes,asked,ColumnDefinition.changed,List.foldlM_append,List.foldlM_append,bind_assoc]
  simp only [last,foldlM_toList]
  rcases oneLimit with noLength | noPrecision
  · rw [noLength]
    cases r.precision <;> cases r.defaultValue <;> rfl
  · rw [noPrecision]
    cases r.limit <;> cases r.defaultValue <;> rfl

theorem value_run (oneLimit : r.limit = none ∨ r.precision = none) (a : Adapter) :
    (r.run a).value = (r.statement a).map a.text := by
  rw [run,statement]
  dsimp only [Logged.map]
  simp only [definition_eq_changed oneLimit]
  cases (a.dialect.columnDefinition r.type r.characterSet).value with
  | error e => rfl
  | ok base =>
    cases made : base.changed r.changes with
    | error e => simp [made,bind,Except.bind,Except.map]
    | ok d => cases written : a.column r.name d <;> simp [made,written,bind,Except.bind,Except.map,pure,Except.pure]

/-- A column of a type has nothing more to it, so that the changes leave what the
    request says and nothing else. -/
theorem eq_of_changed {c : Capabilities} (fresh : Fresh c base) (made : base.changed r.changes = .ok d) :
    d = { base with limit := r.asked, defaultValue := r.defaultValue, notNull := r.notNull } := by
  rw [ColumnDefinition.eq_foldl_of_changed made,changes]
  obtain ⟨baseType,capabilities,suffix,limit,defaultValue,notNull,primaryKey,unique,check⟩ := base
  obtain ⟨_,rfl,rfl,rfl,_,_,_⟩ := fresh
  cases r.asked <;> cases r.defaultValue <;> cases r.notNull <;> rfl

theorem limitText_eq (r : ColumnRequest) : r.limitText = r.asked.elim "" Limit.sql := by
  rw [limitText]
  cases r.asked with
  | none => rfl
  | some l => exact l.sql_eq.symm

theorem text_name_words (n words : String) : a.text [a.name n,.words words] = a.text [a.name n] ++ words := by
  rw [Adapter.text,Adapter.text,← Sql.text_words a.dialect.quoteChar words,← Sql.text_append,Sql.text_words]
  rfl

theorem writes_of_column {c : Capabilities} {s : Sql.Statement} (fresh : Fresh c base)
    (made : base.changed r.changes = .ok d) (written : a.column r.name d = .ok s) : r.Writes a base (a.text s) := by
  obtain ⟨_,_,written⟩ := bind_ok_iff.mp written
  obtain ⟨text,rendered,written⟩ := bind_ok_iff.mp written
  cases written
  obtain ⟨type,typed,rfl⟩ := map_ok_iff.mp rendered
  have same := eq_of_changed fresh made
  have clauses : d.clauses = r.clauses := by
    simp [same,ColumnDefinition.clauses,ColumnRequest.clauses,ColumnDefinition.isUnique,fresh.primaryKey,fresh.unique,
      fresh.check]
  have typeIs : type = base.baseType ++ r.limitText ++ base.suffix.elim "" (" " ++ ·) := by
    rw [ColumnDefinition.typeText] at typed
    split at typed
    · cases typed
    · rw [limitText_eq,← Except.ok.inj typed,same]
  rw [Writes,text_name_words,clauses,typeIs,← String.append_assoc]

theorem writes_of_statement {s : Sql.Statement} (written : r.statement a = .ok s) :
    ∃ base, (a.dialect.columnDefinition r.type r.characterSet).value = .ok base ∧ r.Writes a base (a.text s) := by
  obtain ⟨base,resolved,written⟩ := bind_ok_iff.mp written
  obtain ⟨d,made,written⟩ := bind_ok_iff.mp written
  exact ⟨base,resolved,writes_of_column (fresh_of_resolved resolved) made written⟩

end ColumnRequest

/-- What items ask for is one limit at most, and a scale goes with one. -/
theorem oneLimit_of_asked {items : List (Item ColumnFlag ColumnSetting)} {r : ColumnRequest} (asked : r.AskedBy items) :
    (r.limit = none ∨ r.precision = none) ∧ (r.scale ≠ none → r.precision ≠ none ∨ r.limit ≠ none) := by
  have limits := asked.limit
  obtain ⟨name,type,characterSet,limit,precision,scale,defaultValue,notNull⟩ := r
  cases limits with
  | nothing _ _ _ => simp
  | length _ _ _ => simp
  | precision _ _ _ => simp

/-- A command line that asks for a column asks for just what its options say: a
    name, a type, and everything else once or not at all. Its limit is a length,
    or a precision that may have a scale, or there is none. A scale without a
    precision is taken beside a length only, and nothing comes of it. The command
    takes the column of the type and the character set, gives it the limit, if
    there is one, the default value and the refusal of nulls, and writes it behind
    its name, or it ends with the first error on the way. What it writes holds all
    of them, each number of the limit in decimal and below 2³². Any greater number
    for one of these options ends the command line, whatever else it asks for. -/
theorem column_options_honoured (w : Wording) (args : List String) (environment : String → Option String) (files : Files) :
    (∀ o r, Invocation.ofArguments args environment = .ok (o,.column r) →
      (∃ rest, .command "column" rest ∈ globalSyntax.items args ∧ r.AskedBy (columnSyntax.items rest)) ∧
      (r.limit = none ∨ r.precision = none) ∧ (r.scale ≠ none → r.precision ≠ none ∨ r.limit ≠ none) ∧
      (∀ l ∈ r.asked, ∀ n ∈ l.numbers, n < UInt32.size) ∧
      ∀ a, (o.adapter files).value = .ok a →
        (∀ s, r.statement a = .ok s →
          (run w args environment files).code = 0 ∧ (run w args environment files).stdout = a.text s ++ "\n" ∧
          ∃ base, (a.dialect.columnDefinition r.type r.characterSet).value = .ok base ∧ r.Writes a base (a.text s)) ∧
        ∀ e, r.statement a = .error e →
          (run w args environment files).code = 1 ∧ (run w args environment files).stdout = "" ∧
          (run w args environment files).stderr = w.shown (o.visible (perform o (.column r) files).events) ++
            ("Error: " ++ e.message w.documentFault ++ w.trace (.refused e) ++ "\n")) ∧
    ∀ rest s text n, .command "column" rest ∈ globalSyntax.items args → s ∈ [.limit,.precision,.scale] →
      .setting s text ∈ columnSyntax.items rest → Text.NumberText text.toList n → UInt32.size ≤ n →
      (∀ result, Invocation.ofArguments args environment ≠ .ok result) ∧
      (Invocation.ofArguments args environment ≠ .error .help →
        Invocation.ofArguments args environment ≠ .error .version →
        (run w args environment files).code = 2 ∧ (run w args environment files).stdout = "") := by
  refine ⟨?_,?_⟩
  · intro o r read
    obtain ⟨rest,listed,asked⟩ := askedBy_of_read read
    obtain ⟨oneLimit,scaled⟩ := oneLimit_of_asked asked
    refine ⟨⟨rest,listed,asked⟩,oneLimit,scaled,fun l _ => l.numbers_lt,?_⟩
    intro a adapter
    have value : ((Command.column r).run a).value = (r.statement a).map a.text := r.value_run oneLimit a
    refine ⟨?_,?_⟩
    · intro s written
      obtain ⟨code,stdout,_⟩ := run_of_written w read adapter (value.trans (congrArg _ written))
      exact ⟨code,stdout,ColumnRequest.writes_of_statement written⟩
    · intro e refused
      exact run_of_refused w read adapter (value.trans (congrArg _ refused))
  · intro rest s text n command number said means large
    have unread : ∀ result, Invocation.ofArguments args environment ≠ .ok result :=
      ofArguments_ne_ok_of_large command number said means large
    refine ⟨unread,?_⟩
    intro noHelp noVersion
    cases read : Invocation.ofArguments args environment with
    | ok result => exact absurd read (unread result)
    | error i =>
      cases i with
      | help => exact absurd read noHelp
      | version => exact absurd read noVersion
      | fault f => exact run_of_fault w read

/-- Numbers may have a sign and leading zeros, which are not written. The smallest
    number that does not fit is not taken for zero, and zero itself is refused. -/
theorem column_options_honoured_of_decimal :
    let environment : String → Option String := fun _ => none
    let files : Files := fun _ => .error .notFound
    let rest := ["--default=0","Amount","-p=+012","--scale","3","--not-null","-tdecimal"]
    let large := ["-tdecimal","Amount","-p","4294967296"]
    let zero := ["-doracle","column","-tdecimal","Amount","-p","0"]
    (run .plain ("-doracle" :: "column" :: rest) environment files).stdout =
        "\"AMOUNT\" NUMBER(12, 3) DEFAULT 0 NOT NULL" ++ "\n" ∧
      (run .plain ("-doracle" :: "column" :: large) environment files).code = 2 ∧
      (run .plain zero environment files).stderr =
        "Error: invalid limit for the NUMBER column type: must be greater than zero\n" := by
  intro environment files rest large zero
  let amount : ColumnRequest := ⟨"Amount",.decimal,none,none,some 12,some 3,some "0",true⟩
  have read : Invocation.ofArguments ("-doracle" :: "column" :: rest) environment =
      .ok ({ dialect := some .oracle },.column amount) := by decide +kernel
  have written : amount.statement (.ofDialect .oracle) =
      .ok [.name "AMOUNT",.words " NUMBER(12, 3) DEFAULT 0 NOT NULL"] := by decide +kernel
  obtain ⟨_,_,_,_,ends⟩ := (column_options_honoured .plain _ environment files).1 _ _ read
  have number : Text.NumberText "4294967296".toList UInt32.size :=
    .unsigned ⟨by decide,List.all_eq_true.mp (by decide),by decide⟩
  have refused := (column_options_honoured .plain ("-doracle" :: "column" :: large) environment files).2
    large .precision "4294967296" _ (by decide) (by decide) (by decide) number (le_refl _)
  have readZero : Invocation.ofArguments zero environment =
      .ok ({ dialect := some .oracle },.column ⟨"Amount",.decimal,none,none,some 0,none,none,false⟩) := by decide +kernel
  obtain ⟨_,_,_,_,fails⟩ := (column_options_honoured .plain zero environment files).1 _ _ readZero
  refine ⟨((ends _ rfl).1 _ written).2.1,(refused.2 (by decide +kernel) (by decide +kernel)).1,?_⟩
  exact ((fails _ rfl).2 _ rfl).2.2

/-- A scale without a precision is taken beside a length, and does not show. -/
theorem scale_beside_length_taken :
    let args := ["-d","oracle","column","-t","char","-l","9","--scale","2","c"]
    let rest := ["-t","char","-l","9","--scale","2","c"]
    (∃ o r, Invocation.ofArguments args (fun _ => none) = .ok (o,.column r) ∧ r.scale ≠ none ∧ r.precision = none) ∧
      .command "column" rest ∈ globalSyntax.items args ∧ valuesOf .scale (columnSyntax.items rest) = ["2"] ∧
      valuesOf .precision (columnSyntax.items rest) = [] ∧
      run .plain args (fun _ => none) (fun _ => .error .notFound) = ⟨0,"\"C\" CHAR(9)\n",""⟩ := by
  intro args rest
  have read : Invocation.ofArguments args (fun _ => none) =
      .ok ({ dialect := some .oracle },.column ⟨"c",.char,none,some 9,none,some 2,none,false⟩) := by decide +kernel
  exact ⟨⟨_,_,read,nofun,rfl⟩,by decide +kernel,by decide +kernel,by decide +kernel,by decide +kernel⟩

end CommandLine

end PortableDdl
