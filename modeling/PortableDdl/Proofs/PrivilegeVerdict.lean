import PortableDdl.Adapter.Grant
import PortableDdl.Proofs.Reader
import PortableDdl.Proofs.Refusal

/-!
# Which grants are refused

A request to grant is refused for the first thing that is wrong with it, and a
request to revoke for the same. Where both are granted, their texts differ in
nothing but the verb, and each is reported once.
-/

namespace PortableDdl
open Sql

/-- Whether a privilege is restricted to columns although the dialect grants it
    on whole tables only. -/
def Dialect.Forbids (d : Dialect) (p : Privilege) : Prop := d = .oracle ∧ p.keyword = "SELECT" ∧ p.columns ≠ []

/-- Whether one who gets or loses a privilege can be written. -/
def Adapter.Quotes (a : Adapter) (g : String) : Prop := ∃ s, a.grantee g = .ok s

/-- Whether nothing is wrong with a request. -/
structure Requestable (a : Adapter) (gs : List String) (ps : List Privilege) : Prop where
  someGrantee : gs ≠ []
  somePrivilege : ps ≠ []
  granular : ∀ p ∈ ps, ¬ a.dialect.Forbids p
  quoted : ∀ g ∈ gs, a.Quotes g

/-- The first thing that is wrong with a request. -/
inductive Objection (a : Adapter) (gs : List String) (ps : List Privilege) : DdlError → Prop
  | noGrantee (noOne : gs = []) : Objection a gs ps (.invalidConfiguration .noGrantee)
  | noPrivilege (someGrantee : gs ≠ []) (nothing : ps = []) : Objection a gs ps (.invalidConfiguration .noPrivilege)
  | granularity {before after : List Privilege} {p : Privilege} (someGrantee : gs ≠ [])
      (split : ps = before ++ p :: after) (granular : ∀ q ∈ before, ¬ a.dialect.Forbids q)
      (forbidden : a.dialect.Forbids p) : Objection a gs ps (.unsupportedGrantGranularity a.dialect p)
  | grantee {before after : List String} {g : String} (somePrivilege : ps ≠ [])
      (granular : ∀ p ∈ ps, ¬ a.dialect.Forbids p) (split : gs = before ++ g :: after)
      (quoted : ∀ h ∈ before, a.Quotes h) (unquoted : ¬ a.Quotes g) :
      Objection a gs ps (.invalidConfiguration (.notAccount g))

variable {a : Adapter}

theorem refusesPrivilege_iff (a : Adapter) (p : Privilege) : a.refusesPrivilege p = true ↔ a.dialect.Forbids p := by
  cases p with
  | onTable r => simp [Adapter.refusesPrivilege,Dialect.Forbids,Privilege.isColumnScoped,Privilege.columns]
  | onColumns r columns =>
    cases dialect : a.dialect <;> cases r <;>
      simp +decide [Adapter.refusesPrivilege,Dialect.Forbids,Dialect.supportsColumnPrivilege,dialect,
        Privilege.isColumnScoped,Privilege.columns,Privilege.keyword,ColumnRight.keyword]

/-- The first privilege that is refused decides. -/
theorem find?_refused_iff {ps : List Privilege} {p : Privilege} :
    ps.find? a.refusesPrivilege = some p ↔
      ∃ before after, ps = before ++ p :: after ∧ (∀ q ∈ before, ¬ a.dialect.Forbids q) ∧ a.dialect.Forbids p := by
  rw [List.find?_eq_some_iff_append]
  simp only [Bool.not_eq_true',← Bool.not_eq_true,refusesPrivilege_iff]
  constructor
  · rintro ⟨forbidden,before,after,split,granular⟩
    exact ⟨before,after,split,granular,forbidden⟩
  · rintro ⟨before,after,split,granular,forbidden⟩
    exact ⟨forbidden,before,after,split,granular⟩

theorem find?_granular_iff {ps : List Privilege} :
    ps.find? a.refusesPrivilege = none ↔ ∀ p ∈ ps, ¬ a.dialect.Forbids p := by
  simp only [List.find?_eq_none,refusesPrivilege_iff]

/-- One who cannot be written is no account. -/
theorem grantee_error_iff {g : String} {e : DdlError} :
    a.grantee g = .error e ↔ ¬ a.Quotes g ∧ e = .invalidConfiguration (.notAccount g) := by
  unfold Adapter.Quotes Adapter.grantee
  cases a.dialect
  case mysql => cases Account.parse? g <;> simp [eq_comm]
  all_goals simp

/-- The statement for a request with nothing wrong, with those who get or lose
    the privileges as they are written. -/
def Adapter.privilegeText (a : Adapter) (verb : GrantVerb) (schema : Option String) (table : String)
    (ps : List Privilege) (parts : List Statement) : Statement :=
  [.words verb.opening] ++ a.privilegeList ps ++ [.words " ON "] ++ a.tableName schema table ++
    [.words verb.preposition] ++ Statement.separated ", " parts

/-- A request is looked through in a fixed order. -/
theorem privilegeStatement_eq (verb : GrantVerb) (schema : Option String) (table : String) (gs : List String)
    (ps : List Privilege) :
    a.privilegeStatement verb schema table gs ps =
      if gs = [] then .error (.invalidConfiguration .noGrantee)
      else if ps = [] then .error (.invalidConfiguration .noPrivilege)
      else match ps.find? a.refusesPrivilege with
        | some p => .error (.unsupportedGrantGranularity a.dialect p)
        | none => (gs.mapM a.grantee).map (a.privilegeText verb schema table ps) := by
  rw [Adapter.privilegeStatement,Adapter.checkPrivileges,Adapter.granteeList]
  simp only [List.isEmpty_iff]
  split
  · rfl
  · split
    · rfl
    · cases ps.find? a.refusesPrivilege with
      | some p => rfl
      | none => cases gs.mapM a.grantee <;> rfl

variable {verb : GrantVerb} {schema : Option String} {table : String} {gs : List String} {ps : List Privilege}

/-- A statement is refused for the first thing that is wrong with its request. -/
theorem privilegeStatement_error_iff {e : DdlError} :
    a.privilegeStatement verb schema table gs ps = .error e ↔ Objection a gs ps e := by
  rw [privilegeStatement_eq]
  constructor
  · intro refused
    split at refused
    · rename_i noOne
      cases refused
      exact .noGrantee noOne
    · rename_i someGrantee
      split at refused
      · rename_i nothing
        cases refused
        exact .noPrivilege someGrantee nothing
      · rename_i somePrivilege
        cases found : ps.find? a.refusesPrivilege with
        | some p =>
          rw [found] at refused
          cases refused
          obtain ⟨before,after,split,granular,forbidden⟩ := find?_refused_iff.mp found
          exact .granularity someGrantee split granular forbidden
        | none =>
          rw [found] at refused
          obtain ⟨before,g,after,split,quoted,bad⟩ := mapM_error_iff.mp (map_error_iff.mp refused)
          obtain ⟨unquoted,rfl⟩ := grantee_error_iff.mp bad
          exact .grantee somePrivilege (find?_granular_iff.mp found) split quoted unquoted
  · intro objection
    cases objection with
    | noGrantee noOne => rw [if_pos noOne]
    | noPrivilege someGrantee nothing => rw [if_neg someGrantee,if_pos nothing]
    | granularity someGrantee split granular forbidden =>
      have somePrivilege : ps ≠ [] := by simp [split]
      rw [if_neg someGrantee,if_neg somePrivilege,find?_refused_iff.mpr ⟨_,_,split,granular,forbidden⟩]
    | grantee somePrivilege granular split quoted unquoted =>
      have someGrantee : gs ≠ [] := by simp [split]
      have bad := grantee_error_iff.mpr ⟨unquoted,rfl⟩
      rw [if_neg someGrantee,if_neg somePrivilege,find?_granular_iff.mpr granular,
        mapM_error_iff.mpr ⟨_,_,_,split,quoted,bad⟩]
      rfl

/-- A statement is written if nothing is wrong with its request. -/
theorem privilegeStatement_ok_iff :
    (∃ s, a.privilegeStatement verb schema table gs ps = .ok s) ↔ Requestable a gs ps := by
  rw [privilegeStatement_eq]
  constructor
  · rintro ⟨s,written⟩
    split at written
    · cases written
    · rename_i someGrantee
      split at written
      · cases written
      · rename_i somePrivilege
        cases found : ps.find? a.refusesPrivilege with
        | some p =>
          rw [found] at written
          cases written
        | none =>
          rw [found] at written
          obtain ⟨parts,list,_⟩ := map_ok_iff.mp written
          exact ⟨someGrantee,somePrivilege,find?_granular_iff.mp found,mapM_ok_iff.mp ⟨parts,list⟩⟩
  · rintro ⟨someGrantee,somePrivilege,granular,quoted⟩
    obtain ⟨parts,list⟩ := mapM_ok_iff.mpr quoted
    rw [if_neg someGrantee,if_neg somePrivilege,find?_granular_iff.mpr granular,list]
    exact ⟨_,rfl⟩

/-- What is written names those who get or lose the privileges one by one. -/
theorem privilegeStatement_written {s : Statement} (written : a.privilegeStatement verb schema table gs ps = .ok s) :
    ∃ parts, gs.mapM a.grantee = .ok parts ∧ s = a.privilegeText verb schema table ps parts := by
  obtain ⟨someGrantee,somePrivilege,granular,quoted⟩ := privilegeStatement_ok_iff.mp ⟨s,written⟩
  obtain ⟨parts,list⟩ := mapM_ok_iff.mpr quoted
  rw [privilegeStatement_eq,if_neg someGrantee,if_neg somePrivilege,find?_granular_iff.mpr granular,list] at written
  cases written
  exact ⟨parts,list,rfl⟩

theorem text_privilegeText (a : Adapter) (verb : GrantVerb) (schema : Option String) (table : String)
    (ps : List Privilege) (parts : List Statement) :
    a.text (a.privilegeText verb schema table ps parts) =
      verb.opening ++ a.text (a.privilegeList ps) ++ " ON " ++ a.text (a.tableName schema table) ++ verb.preposition ++
        ", ".intercalate (parts.map a.text) := by
  simp only [Adapter.privilegeText,Adapter.text,text_append,text_words,text_separated]
  rfl

theorem changePrivileges_value (a : Adapter) (verb : GrantVerb) (schema : Option String) (table : String)
    (gs : List String) (ps : List Privilege) :
    (a.changePrivileges verb schema table gs ps).value = a.privilegeStatement verb schema table gs ps := by
  rw [Adapter.changePrivileges]
  cases a.privilegeStatement verb schema table gs ps <;> rfl

/-- A statement that is written is reported with its text. -/
theorem events_of_written {s : Statement} (written : (a.changePrivileges verb schema table gs ps).value = .ok s) :
    (a.changePrivileges verb schema table gs ps).events = [.debug (a.dialect.productName ++ ": " ++ a.text s)] := by
  rw [changePrivileges_value] at written
  simp only [Adapter.changePrivileges,written]

/-- A refusal is not reported. -/
theorem events_of_refused {e : DdlError} (refused : (a.changePrivileges verb schema table gs ps).value = .error e) :
    (a.changePrivileges verb schema table gs ps).events = [] := by
  rw [changePrivileges_value] at refused
  simp only [Adapter.changePrivileges,refused]

/-- A grant is refused for the first thing that is wrong with it, and a
    revocation of the same for the same. If nothing is wrong, the two texts have
    the same privileges, table and grantees between their own verbs. Each of them
    is reported once if it is written, and not at all if it is refused. -/
theorem grant_and_revoke_agree (a : Adapter) (schema : Option String) (table : String) (gs : List String)
    (ps : List Privilege) :
    let granted := a.grant schema table gs ps
    let revoked := a.revoke schema table gs ps
    ((∃ s, granted.value = .ok s) ↔ Requestable a gs ps) ∧ (∀ e, granted.value = .error e ↔ Objection a gs ps e) ∧
    ((∃ t, revoked.value = .ok t) ↔ ∃ s, granted.value = .ok s) ∧
    (∀ e, revoked.value = .error e ↔ granted.value = .error e) ∧
    (∀ s t, granted.value = .ok s → revoked.value = .ok t →
      ∃ parts, gs.mapM a.grantee = .ok parts ∧
        a.text s = "GRANT " ++ a.text (a.privilegeList ps) ++ " ON " ++ a.text (a.tableName schema table) ++ " TO " ++
          ", ".intercalate (parts.map a.text) ∧
        a.text t = "REVOKE " ++ a.text (a.privilegeList ps) ++ " ON " ++ a.text (a.tableName schema table) ++ " FROM " ++
          ", ".intercalate (parts.map a.text)) ∧
    (∀ s, granted.value = .ok s → granted.events = [.debug (a.dialect.productName ++ ": " ++ a.text s)]) ∧
    (∀ t, revoked.value = .ok t → revoked.events = [.debug (a.dialect.productName ++ ": " ++ a.text t)]) ∧
    (∀ e, granted.value = .error e → granted.events = [] ∧ revoked.events = []) := by
  intro granted revoked
  have grantedValue : granted.value = a.privilegeStatement .grant schema table gs ps := changePrivileges_value ..
  have revokedValue : revoked.value = a.privilegeStatement .revoke schema table gs ps := changePrivileges_value ..
  have sameRefusal : ∀ e, revoked.value = .error e ↔ granted.value = .error e := by
    intro e
    rw [revokedValue,grantedValue,privilegeStatement_error_iff,privilegeStatement_error_iff]
  refine ⟨?_,?_,?_,sameRefusal,?_,fun s written => events_of_written written,fun t written => events_of_written written,
    fun e refused => ⟨events_of_refused refused,events_of_refused ((sameRefusal e).mpr refused)⟩⟩
  · rw [grantedValue]
    exact privilegeStatement_ok_iff
  · intro e
    rw [grantedValue]
    exact privilegeStatement_error_iff
  · rw [grantedValue,revokedValue,privilegeStatement_ok_iff,privilegeStatement_ok_iff]
  · intro s t grantWritten revokeWritten
    rw [grantedValue] at grantWritten
    rw [revokedValue] at revokeWritten
    obtain ⟨parts,list,rfl⟩ := privilegeStatement_written grantWritten
    obtain ⟨others,sameList,rfl⟩ := privilegeStatement_written revokeWritten
    obtain rfl := Except.ok.inj (list.symm.trans sameList)
    exact ⟨parts,list,text_privilegeText ..,text_privilegeText ..⟩

end PortableDdl
