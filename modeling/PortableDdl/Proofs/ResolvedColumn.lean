import PortableDdl.Proofs.ChangeOrder
import PortableDdl.Proofs.CharacterSetPolicy
import PortableDdl.Proofs.ColumnVerdict

/-!
# Columns of a type

What a dialect makes of a column type and of a request for a character set. Each
dialect has its own table of types, but what a column takes hangs on the dialect
and the type alone, and where several dialects take limits of a type they take the
same ones. A request for a character set changes how a column of characters is
written and nothing else.
-/

namespace PortableDdl

/-- What a column of a type takes in a dialect, in whatever character set. -/
def Dialect.capabilities (d : Dialect) : ColumnType → Capabilities
  | .char => .sized
  | .decimal => .scaled
  | .varchar => if d = .mysql ∨ d = .derby then .sizedAlways else .sized
  | .varbinary => if d = .postgres then .scalar else .sizedAlways
  | .blob => if d = .mysql ∨ d = .derby then .bare else .scalar
  | _ => .scalar

/-- Whether a column of a type must be given a length. -/
inductive NeedsLength : Dialect → ColumnType → Prop
  | text {d : Dialect} : d = .mysql ∨ d = .derby → NeedsLength d .varchar
  | binary {d : Dialect} : d ≠ .postgres → NeedsLength d .varbinary

/-- Whether a definition is that of a type with nothing more to it. -/
structure Fresh (c : Capabilities) (f : ColumnDefinition) : Prop where
  capabilities : f.capabilities = c
  limit : f.limit = none
  defaultValue : f.defaultValue = none
  notNull : f.notNull = false
  primaryKey : f.primaryKey = false
  unique : f.unique = false
  check : f.check = none

variable {d : Dialect} {t : ColumnType} {e : TextEncoding} {f g : ColumnDefinition} {l : Limit}

theorem fresh_ofType (type : String) (c : Capabilities) : Fresh c (.ofType type c) := ⟨rfl,rfl,rfl,rfl,rfl,rfl,rfl⟩

theorem fresh_withSuffix {c : Capabilities} (fresh : Fresh c f) (s : String) : Fresh c (f.withSuffix s) :=
  ⟨fresh.capabilities,fresh.limit,fresh.defaultValue,fresh.notNull,fresh.primaryKey,fresh.unique,fresh.check⟩

theorem fresh_characterColumn {c : Capabilities} (fresh : Fresh c f) (made : characterColumn f e = .ok g) : Fresh c g := by
  cases e with
  | explicit n =>
    rw [characterColumn] at made
    split at made
    · cases made
      exact fresh_withSuffix fresh _
    · cases made
  | databaseDefault => cases made; exact fresh
  | national => cases made; exact fresh

/-- Every row of every table takes what the dialect and the type say. -/
theorem fresh_columnType (made : d.columnType t e = .ok f) : Fresh (d.capabilities t) f := by
  cases d with
  | derby =>
    cases made
    cases t with
    | varbinary => exact fresh_withSuffix (fresh_ofType _ _) _
    | _ => exact fresh_ofType _ _
  | mysql =>
    have usual : Fresh (Dialect.mysql.capabilities t) t.usualColumn := by
      cases t <;> exact fresh_ofType _ _
    rw [Dialect.columnType,ColumnType.mysqlColumn] at made
    split at made
    · exact fresh_characterColumn usual made
    · cases made
      exact usual
  | oracle =>
    cases t <;> cases made <;> exact fresh_ofType _ _
  | postgres =>
    cases made
    cases t <;> exact fresh_ofType _ _

theorem fresh_of_resolved {c : Option CharacterSet} (resolved : (d.columnDefinition t c).value = .ok f) :
    Fresh (d.capabilities t) f := by
  rw [value_columnDefinition] at resolved
  exact fresh_columnType resolved

namespace Capabilities

/-- A type refuses exactly the limits that it does not take. -/
theorem refusal?_limit_iff {c : Capabilities} {type : String} : c.refusal? type (.limit l) = none ↔ c.Takes l := by
  refine ⟨takes_of_accepted,?_⟩
  rintro ⟨supported,kind,positive,scale⟩
  have faultless : ∀ fault ∈ LimitFault.ranked, ¬ fault.affects c.limitKind l = true := by
    intro fault _
    cases fault with
    | lengthExpected =>
      rw [LimitFault.affects,kind]
      cases c.limitKind <;> decide
    | precisionExpected =>
      rw [LimitFault.affects,kind]
      cases c.limitKind <;> decide
    | zero => simpa [LimitFault.affects] using UInt32.pos_iff_ne_zero.mp positive
    | scaleExceedsPrecision =>
      cases asked : l.scale? with
      | none => simp [LimitFault.affects,asked]
      | some s => simpa [LimitFault.affects,asked] using scale s asked
  rw [refusal?,if_neg supported]
  simpa using faultless

theorem scaled_takes_iff : scaled.Takes l ↔ ∃ p s, l = .precision p s ∧ 0 < p ∧ ∀ x, s = some x → x ≤ p := by
  constructor
  · rintro ⟨_,kind,positive,scale⟩
    cases l with
    | length n => cases kind
    | precision p s => exact ⟨p,s,rfl,positive,scale⟩
  · rintro ⟨p,s,rfl,positive,scale⟩
    exact ⟨by decide,rfl,positive,scale⟩

/-- A type for lengths takes every length but zero, whether it needs one or not. -/
theorem takes_length_iff {c : Capabilities} (supported : c.limit ≠ .unsupported) (kind : c.limitKind = .length) :
    c.Takes l ↔ ∃ n, l = .length n ∧ 0 < n := by
  constructor
  · rintro ⟨_,same,positive,_⟩
    cases l with
    | length n => exact ⟨n,rfl,positive⟩
    | precision p s => cases same.trans kind
  · rintro ⟨n,rfl,positive⟩
    exact ⟨supported,kind.symm,positive,by simp [Limit.scale?]⟩

end Capabilities

theorem withLimit_ok_iff : (∃ g, f.withLimit l = .ok g) ↔ f.capabilities.Takes l := by
  have change : f.withLimit l = f.change (.limit l) := rfl
  have takes : f.capabilities.refusal? f.baseType (.limit l) = none ↔ f.capabilities.Takes l :=
    Capabilities.refusal?_limit_iff
  rw [change,ColumnDefinition.change_eq,← takes]
  cases f.capabilities.refusal? f.baseType (.limit l) <;> simp

theorem typeText_ok_iff : (∃ s, f.typeText = .ok s) ↔ ¬ (f.capabilities.limit = .required ∧ f.limit = none) := by
  have missing : f.lacksLimit = true ↔ f.capabilities.limit = .required ∧ f.limit = none := by
    simp [ColumnDefinition.lacksLimit,and_comm]
  rw [← missing,ColumnDefinition.typeText_eq]
  split <;> simp_all

theorem sql_ok_iff {name : String} : (∃ s, f.sql name = .ok s) ↔ ∃ s, f.typeText = .ok s := by
  obtain ⟨parts,_,text⟩ := f.sql_eq name
  rw [text,ColumnDefinition.typeText_eq]
  split <;> simp

theorem capabilities_of_needsLength (needs : NeedsLength d t) : d.capabilities t = .sizedAlways := by
  cases needs with
  | text strict => exact if_pos strict
  | binary other => exact if_neg other

theorem required_iff : (d.capabilities t).limit = .required ↔ NeedsLength d t := by
  constructor
  · intro required
    cases t with
    | varchar => cases d <;> first | exact .text (by decide) | cases required
    | varbinary => cases d <;> first | exact .binary (by decide) | cases required
    | _ => cases d <;> cases required
  · intro needs
    rw [capabilities_of_needsLength needs]
    rfl

/-- Whether a definition has a text, by itself and in every way of writing a column. -/
structure Adapter.Renders (a : Adapter) (f : ColumnDefinition) : Prop where
  type : ∃ s, f.typeText = .ok s
  text : ∀ name, ∃ s, f.sql name = .ok s
  written : ∀ (w : ColumnWriting) (name : String), ∃ s, w.statement a name f = .ok s

theorem renders_of_typeText {a : Adapter} (unchecked : f.check = none) (type : ∃ s, f.typeText = .ok s) : a.Renders f := by
  refine ⟨type,fun name => sql_ok_iff.mpr type,fun w name => (writing_ok_iff w).mpr ?_⟩
  intro e objection
  cases objection with
  | condition _ asked => exact asked unchecked
  | limit _ required missing => exact typeText_ok_iff.mp type ⟨required,missing⟩

/-- The limits that a column takes are the same in every dialect and character set:
    a precision that is not exceeded by its scale for a decimal number, a length for
    a column of characters, and neither of them zero. With a limit that it takes
    every column has a text, and without one too, but for those that need a length,
    and these take every length. -/
theorem limits_portable {a : Adapter} {t : ColumnType} {c : Option CharacterSet} {f : ColumnDefinition}
    (resolved : (a.dialect.columnDefinition t c).value = .ok f) :
    (t = .decimal → ∀ l,
      (∃ g, f.withLimit l = .ok g) ↔ ∃ p s, l = .precision p s ∧ 0 < p ∧ ∀ x, s = some x → x ≤ p) ∧
    (t = .char ∨ t = .varchar → ∀ l, (∃ g, f.withLimit l = .ok g) ↔ ∃ n, l = .length n ∧ 0 < n) ∧
    (t = .decimal ∨ t = .char ∨ t = .varchar → ∀ (b : Adapter) c' f', (b.dialect.columnDefinition t c').value = .ok f' →
      ∀ l, (∃ g, f.withLimit l = .ok g) ↔ ∃ g, f'.withLimit l = .ok g) ∧
    (∀ l g, f.withLimit l = .ok g → a.Renders g) ∧
    (¬ NeedsLength a.dialect t → a.Renders f) ∧
    (NeedsLength a.dialect t → f.typeText = .error (.missingRequiredLimit f.baseType) ∧
      (∀ name, f.sql name = .error (.missingRequiredLimit f.baseType)) ∧
      ∀ n, 0 < n → ∃ g, f.withLimit (.length n) = .ok g) := by
  have fresh := fresh_of_resolved resolved
  have decimal : ∀ {d : Dialect} {l : Limit}, (d.capabilities .decimal).Takes l ↔
      ∃ p s, l = .precision p s ∧ 0 < p ∧ ∀ x, s = some x → x ≤ p := Capabilities.scaled_takes_iff
  have text : ∀ {d : Dialect} {l : Limit}, t = .char ∨ t = .varchar →
      ((d.capabilities t).Takes l ↔ ∃ n, l = .length n ∧ 0 < n) := by
    rintro d l (rfl | rfl) <;> cases d <;> exact Capabilities.takes_length_iff (by decide) rfl
  refine ⟨?_,?_,?_,?_,?_,?_⟩
  · rintro rfl l
    rw [withLimit_ok_iff,fresh.capabilities,decimal]
  · intro isText l
    rw [withLimit_ok_iff,fresh.capabilities,text isText]
  · intro limited b c' f' other l
    rw [withLimit_ok_iff,withLimit_ok_iff,fresh.capabilities,(fresh_of_resolved other).capabilities]
    rcases limited with rfl | isText
    · rw [decimal,decimal]
    · rw [text isText,text isText]
  · intro l g taken
    obtain ⟨_,_,rfl⟩ := map_ok_iff.mp taken
    exact renders_of_typeText fresh.check (typeText_ok_iff.mpr (by simp))
  · intro free
    refine renders_of_typeText fresh.check (typeText_ok_iff.mpr ?_)
    rintro ⟨required,_⟩
    rw [fresh.capabilities,required_iff] at required
    exact free required
  · intro needs
    have missing : f.typeText = .error (.missingRequiredLimit f.baseType) := by
      rw [ColumnDefinition.typeText_error_iff,fresh.capabilities,required_iff,fresh.limit]
      exact ⟨rfl,needs,by decide⟩
    refine ⟨missing,fun name => (ColumnDefinition.sql_error_iff f name _).mpr missing,fun n positive => ?_⟩
    rw [withLimit_ok_iff,fresh.capabilities,capabilities_of_needsLength needs,
      Capabilities.takes_length_iff (by decide) rfl]
    exact ⟨n,rfl,positive⟩

theorem limits_portable_of_latin1 :
    let f := (ColumnDefinition.ofType "VARCHAR" .sizedAlways).withSuffix "CHARACTER SET latin1"
    (Dialect.mysql.columnDefinition .varchar (some (.named "latin1"))).value = .ok f ∧
      f.typeText = .error (.missingRequiredLimit "VARCHAR") ∧ (∃ g, f.withLimit (.length 64) = .ok g) ∧
      ¬ ∃ g, f.withLimit (.precision 64 none) = .ok g := by
  intro f
  have resolved : (Dialect.mysql.columnDefinition .varchar (some (.named "latin1"))).value = .ok f := by decide
  obtain ⟨_,text,_,_,_,needs⟩ := limits_portable (a := .ofDialect .mysql) resolved
  refine ⟨resolved,(needs (.text (.inl rfl))).1,(text (.inr rfl) _).mpr ⟨64,rfl,by decide⟩,?_⟩
  rw [text (.inr rfl)]
  rintro ⟨n,same,_⟩
  cases same

/-! ## Requests for a character set -/

/-- What is said of a type, said of another one. -/
def DdlError.saidOf (type : String) : DdlError → DdlError
  | .missingRequiredLimit _ => .missingRequiredLimit type
  | .limitNotSupported _ => .limitNotSupported type
  | .invalidLimit _ fault => .invalidLimit type fault
  | .defaultNotSupported _ => .defaultNotSupported type
  | e => e

theorem refusal?_saidOf (c : Capabilities) (type other : String) (x : ColumnChange) :
    c.refusal? other x = (c.refusal? type x).map (DdlError.saidOf other) := by
  cases x with
  | limit l =>
    by_cases supported : c.limit = .unsupported
    · simp [Capabilities.refusal?,supported,DdlError.saidOf]
    · rw [Capabilities.refusal?,Capabilities.refusal?,if_neg supported,if_neg supported]
      cases LimitFault.ranked.find? (·.affects c.limitKind l) <;> rfl
  | defaultValue v =>
    rw [Capabilities.refusal?,Capabilities.refusal?]
    cases c.acceptsDefault <;> rfl
  | _ => rfl

/-- Definitions that take the same refuse the same, each in the name of its type. -/
theorem change_error_of_capabilities (same : f.capabilities = g.capabilities) (xs : List ColumnChange) (x : ColumnChange)
    {e : DdlError} (refused : (f.run xs).change x = .error e) :
    (g.run xs).change x = .error (e.saidOf g.baseType) := by
  rw [ColumnDefinition.change_error_iff,ColumnDefinition.capabilities_run,ColumnDefinition.baseType_run] at refused ⊢
  rw [refusal?_saidOf _ f.baseType,← same,refused]
  rfl

/-- Whether one definition refuses a change after any others just if another one
    does, and for the same reason, each in the name of its own type. -/
def SameVerdicts (f g : ColumnDefinition) : Prop :=
  ∀ xs x, ((∃ next, (f.run xs).change x = .ok next) ↔ ∃ next, (g.run xs).change x = .ok next) ∧
    (∀ e, (f.run xs).change x = .error e → (g.run xs).change x = .error (e.saidOf g.baseType)) ∧
    ∀ e, (g.run xs).change x = .error e → (f.run xs).change x = .error (e.saidOf f.baseType)

theorem sameVerdicts_of_capabilities (same : f.capabilities = g.capabilities) : SameVerdicts f g := by
  intro xs x
  have forth : ∀ e, (f.run xs).change x = .error e → (g.run xs).change x = .error (e.saidOf g.baseType) :=
    fun _ => change_error_of_capabilities same xs x
  have back : ∀ e, (g.run xs).change x = .error e → (f.run xs).change x = .error (e.saidOf f.baseType) :=
    fun _ => change_error_of_capabilities same.symm xs x
  refine ⟨?_,forth,back⟩
  cases left : (f.run xs).change x with
  | error e => simp [forth e left]
  | ok next =>
    cases right : (g.run xs).change x with
    | error e => simp [back e right] at left
    | ok other => simp

theorem columnType_of_other (noChar : t ≠ .char) (noVarchar : t ≠ .varchar) (d : Dialect) (e e' : TextEncoding) :
    d.columnType t e = d.columnType t e' := by
  cases d with
  | derby => rfl
  | mysql =>
    have noText : ¬ t.isText = true := by cases t <;> simp_all [ColumnType.isText]
    rw [Dialect.columnType,Dialect.columnType,ColumnType.mysqlColumn,ColumnType.mysqlColumn,if_neg noText,if_neg noText]
  | oracle => cases t <;> first | rfl | contradiction
  | postgres => rfl

theorem eq_of_fresh {c : Capabilities} (left : Fresh c f) (right : Fresh c g) :
    g = { f with baseType := g.baseType, suffix := g.suffix } := by
  obtain ⟨rfl,_,_,_,_,_,_⟩ := left
  obtain ⟨_,_,_,_,_,_,_⟩ := right
  cases f
  cases g
  simp_all

theorem baseType_mysql (made : Dialect.mysql.columnType t e = .ok f) : f.baseType = t.usualColumn.baseType := by
  rw [Dialect.columnType,ColumnType.mysqlColumn] at made
  split at made
  · cases e with
    | explicit n =>
      rw [characterColumn] at made
      split at made <;> cases made
      rfl
    | databaseDefault => cases made; rfl
    | national => cases made; rfl
  · cases made
    rfl

theorem suffix_oracle (made : Dialect.oracle.columnType t e = .ok f) : f.suffix = none := by
  cases t <;> cases made <;> rfl

/-- A request for a character set counts for nothing in a column of another type,
    not even if no character set could have its name. Two requests for a column of
    characters that are granted give definitions that take and hold the same, so
    that whatever is changed in them, a further change is refused in both or in
    none. They differ in the name of the type if the dialect is Oracle, in what
    stands behind it if it is MySQL, and not at all otherwise. -/
theorem character_set_reaches_text_only (a : Adapter) (t : ColumnType) (c c' : Option CharacterSet) :
    (t ≠ .char → t ≠ .varchar →
      (a.dialect.columnDefinition t c).value = (a.dialect.columnDefinition t c').value) ∧
    ∀ f g, (a.dialect.columnDefinition t c).value = .ok f → (a.dialect.columnDefinition t c').value = .ok g →
      (f.capabilities = g.capabilities ∧ f.limit = g.limit ∧ f.defaultValue = g.defaultValue ∧ f.notNull = g.notNull ∧
        f.primaryKey = g.primaryKey ∧ f.unique = g.unique ∧ f.check = g.check) ∧
      SameVerdicts f g ∧
      (a.dialect = .oracle → g = { f with baseType := g.baseType }) ∧
      (a.dialect = .mysql → g = { f with suffix := g.suffix }) ∧
      (a.dialect ≠ .oracle → a.dialect ≠ .mysql → g = f) := by
  refine ⟨?_,?_⟩
  · intro noChar noVarchar
    rw [value_columnDefinition,value_columnDefinition]
    exact columnType_of_other noChar noVarchar _ _ _
  · intro f g left right
    rw [value_columnDefinition] at left right
    have one := fresh_columnType left
    have two := fresh_columnType right
    have same : f.capabilities = g.capabilities := one.capabilities.trans two.capabilities.symm
    have whole := eq_of_fresh one two
    refine ⟨⟨same,one.limit.trans two.limit.symm,one.defaultValue.trans two.defaultValue.symm,
      one.notNull.trans two.notNull.symm,one.primaryKey.trans two.primaryKey.symm,one.unique.trans two.unique.symm,
      one.check.trans two.check.symm⟩,sameVerdicts_of_capabilities same,?_,?_,?_⟩
    · intro oracle
      rw [oracle] at left right
      rw [whole,suffix_oracle left,suffix_oracle right]
    · intro mysql
      rw [mysql] at left right
      rw [whole,baseType_mysql left,baseType_mysql right]
    · intro noOracle noMysql
      cases dialect : a.dialect with
      | oracle => exact absurd dialect noOracle
      | mysql => exact absurd dialect noMysql
      | derby =>
        rw [dialect] at left right
        exact Except.ok.inj (right.symm.trans left)
      | postgres =>
        rw [dialect] at left right
        exact Except.ok.inj (right.symm.trans left)

theorem character_set_reaches_text_only_of_refused_name :
    let latin1 := (ColumnDefinition.ofType "VARCHAR" .sizedAlways).withSuffix "CHARACTER SET latin1"
    let unicode := (ColumnDefinition.ofType "VARCHAR" .sizedAlways).withSuffix "CHARACTER SET utf8mb4"
    (Dialect.mysql.columnDefinition .integer (some (.named "latin1 --"))).value =
      (Dialect.mysql.columnDefinition .integer none).value ∧
    (Dialect.mysql.columnDefinition .varchar (some (.named "latin1"))).value = .ok latin1 ∧
    (Dialect.mysql.columnDefinition .varchar (some .unicode)).value = .ok unicode ∧ SameVerdicts latin1 unicode := by
  intro latin1 unicode
  have left : (Dialect.mysql.columnDefinition .varchar (some (.named "latin1"))).value = .ok latin1 := by decide
  have right : (Dialect.mysql.columnDefinition .varchar (some .unicode)).value = .ok unicode := by decide
  obtain ⟨other,_⟩ := character_set_reaches_text_only (.ofDialect .mysql) .integer (some (.named "latin1 --")) none
  obtain ⟨_,text⟩ := character_set_reaches_text_only (.ofDialect .mysql) .varchar (some (.named "latin1")) (some .unicode)
  exact ⟨other (by decide) (by decide),left,right,(text _ _ left right).2.1⟩

end PortableDdl
