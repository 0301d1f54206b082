import PortableDdl.Adapter.Column
import PortableDdl.Proofs.BuiltDefinition
import PortableDdl.Proofs.Refusal

/-!
# Which columns are refused

A column stands by itself, is added to a table, or takes the place of one that is
there, and the dialects write the last in four ways. All of them look at the
condition of the definition first and at its type next, so that they refuse the
same definitions for the same reason, whatever the names and the settings.
-/

namespace PortableDdl
open Sql

/-- What is done with a column. -/
inductive ColumnWriting where
  | alone
  | added (schema : Option String) (table : String)
  | altered (schema : Option String) (table : String)
deriving DecidableEq, Repr

/-- The statement, or why there is none. -/
def ColumnWriting.statement (a : Adapter) (name : String) (f : ColumnDefinition) :
    ColumnWriting → Except DdlError Statement
  | .alone => a.column name f
  | .added schema table => a.addColumn schema table name f
  | .altered schema table => a.alterColumn schema table name f

/-- What is wrong with a definition in a dialect, the first of two things. -/
inductive ColumnObjection (d : Dialect) (f : ColumnDefinition) : DdlError → Prop
  | condition (unenforced : d = .mysql) (asked : f.check ≠ none) : ColumnObjection d f (.unsupportedCheck .mysql)
  | limit (enforced : d = .mysql → f.check = none) (required : f.capabilities.limit = .required)
      (missing : f.limit = none) : ColumnObjection d f (.missingRequiredLimit f.baseType)

variable {a : Adapter} {f : ColumnDefinition} {e : DdlError}

theorem refuseCheck_error_iff :
    a.refuseCheck f = .error e ↔ a.dialect = .mysql ∧ f.check ≠ none ∧ e = .unsupportedCheck .mysql := by
  unfold Adapter.refuseCheck
  cases h : a.dialect <;> cases f.check <;> simp [Dialect.supportsChecks,eq_comm]

theorem refuseCheck_ok_iff : (∃ u, a.refuseCheck f = .ok u) ↔ (a.dialect = .mysql → f.check = none) := by
  unfold Adapter.refuseCheck
  cases h : a.dialect <;> cases f.check <;> simp [Dialect.supportsChecks]

/-- Whether a definition is refused for a reason by the condition, or else by the
    type. -/
def Adapter.Refuses (a : Adapter) (f : ColumnDefinition) (e : DdlError) : Prop :=
  a.refuseCheck f = .error e ∨ (∃ u, a.refuseCheck f = .ok u) ∧ f.typeText = .error e

theorem refuses_iff : a.Refuses f e ↔ ColumnObjection a.dialect f e := by
  rw [Adapter.Refuses,refuseCheck_error_iff,refuseCheck_ok_iff,ColumnDefinition.typeText_error_iff]
  constructor
  · rintro (⟨unenforced,asked,rfl⟩ | ⟨enforced,rfl,required,missing⟩)
    · exact .condition unenforced asked
    · exact .limit enforced required (by simpa using missing)
  · intro objection
    cases objection with
    | condition unenforced asked => exact .inl ⟨unenforced,asked,rfl⟩
    | limit enforced required missing => exact .inr ⟨enforced,rfl,required,by simp [missing]⟩

theorem alterations_error_iff : f.alterations = .error e ↔ f.typeText = .error e := map_error_iff

theorem text_error_iff : f.text = .error e ↔ f.typeText = .error e := map_error_iff

theorem column_error_iff {name : String} : a.column name f = .error e ↔ a.Refuses f e := by
  simp [Adapter.column,Adapter.Refuses,bind_error_iff,text_error_iff,pure,Except.pure]

/-- A column that takes the place of another one is written anew, or altered in
    one thing after another. The checks are those of a column by itself. -/
theorem alterColumn_error_iff {schema : Option String} {table name : String} :
    a.alterColumn schema table name f = .error e ↔ a.Refuses f e := by
  rw [Adapter.alterColumn]
  cases a.dialect with
  | mysql => exact map_error_iff.trans column_error_iff
  | oracle => exact map_error_iff.trans column_error_iff
  | postgres => simp [Adapter.Refuses,bind_error_iff,alterations_error_iff,pure,Except.pure]
  | derby => simp [Adapter.Refuses,bind_error_iff,alterations_error_iff,pure,Except.pure]

theorem writing_error_iff (w : ColumnWriting) (name : String) :
    w.statement a name f = .error e ↔ ColumnObjection a.dialect f e := by
  rw [← refuses_iff]
  cases w with
  | alone => exact column_error_iff
  | added schema table => exact map_error_iff.trans column_error_iff
  | altered schema table => exact alterColumn_error_iff

/-- What is not refused is written. -/
theorem writing_ok_iff (w : ColumnWriting) {name : String} :
    (∃ s, w.statement a name f = .ok s) ↔ ∀ e, ¬ ColumnObjection a.dialect f e := by
  simp only [← writing_error_iff w name]
  cases w.statement a name f <;> simp

/-- A column by itself, one that is added and one that is altered are refused for
    the same reason, or all of them are written: in MySQL a condition is refused
    first, and then in every dialect a type without the limit that it needs.
    Neither the names nor the settings have a part in it. -/
theorem column_verdict (a : Adapter) (name : String) (f : ColumnDefinition) (w : ColumnWriting) :
    (∀ e, w.statement a name f = .error e ↔ ColumnObjection a.dialect f e) ∧
    ((∃ s, w.statement a name f = .ok s) ↔
      ¬ (a.dialect = .mysql ∧ f.check ≠ none) ∧ ¬ (f.capabilities.limit = .required ∧ f.limit = none)) ∧
    ∀ (settings : Settings) (other : String) (v : ColumnWriting),
      ((∃ s, w.statement a name f = .ok s) ↔ ∃ s, v.statement ⟨a.dialect,settings⟩ other f = .ok s) ∧
      ∀ e, w.statement a name f = .error e ↔ v.statement ⟨a.dialect,settings⟩ other f = .error e := by
  refine ⟨fun e => writing_error_iff w name,?_,?_⟩
  · rw [writing_ok_iff]
    constructor
    · intro unobjected
      have noCondition : ¬ (a.dialect = .mysql ∧ f.check ≠ none) :=
        fun ⟨unenforced,asked⟩ => unobjected _ (.condition unenforced asked)
      refine ⟨noCondition,?_⟩
      rintro ⟨required,missing⟩
      have enforced : a.dialect = .mysql → f.check = none := by simpa using noCondition
      exact unobjected _ (.limit enforced required missing)
    · rintro ⟨noCondition,noLack⟩ e objection
      cases objection with
      | condition unenforced asked => exact noCondition ⟨unenforced,asked⟩
      | limit _ required missing => exact noLack ⟨required,missing⟩
  · intro settings other v
    have written : (∃ s, v.statement ⟨a.dialect,settings⟩ other f = .ok s) ↔ ∀ e, ¬ ColumnObjection a.dialect f e :=
      writing_ok_iff v
    have refused : ∀ e, v.statement ⟨a.dialect,settings⟩ other f = .error e ↔ ColumnObjection a.dialect f e :=
      fun e => writing_error_iff v other
    exact ⟨(writing_ok_iff w).trans written.symm,fun e => (writing_error_iff w name).trans (refused e).symm⟩

end PortableDdl
