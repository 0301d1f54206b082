import PortableDdl.Adapter
import PortableDdl.Adapter.Account
import PortableDdl.Error
import PortableDdl.Event

/-!
# Granting and revoking privileges

Both statements are about the same three things: privileges, a table and those
who get or lose them. A request is refused as a whole before anything of it is
written.
-/

namespace PortableDdl

open Sql

/-- Whether privileges are given or taken away. -/
inductive GrantVerb where
  | grant
  | revoke
deriving DecidableEq, Repr

/-- The words before the privileges. -/
def GrantVerb.opening : GrantVerb → String
  | .grant => "GRANT "
  | .revoke => "REVOKE "

/-- The words before those who get or lose them. -/
def GrantVerb.preposition : GrantVerb → String
  | .grant => " TO "
  | .revoke => " FROM "

/-- Whether a privilege can be restricted to columns. -/
def Dialect.supportsColumnPrivilege : Dialect → Privilege → Bool
  | .oracle, .onColumns .select _ => false
  | _, _ => true

namespace Adapter

/-- One who gets or loses a privilege: a name, in MySQL an account. -/
def grantee (a : Adapter) (g : String) : Except DdlError Statement :=
  match a.dialect with
  | .mysql =>
    match Account.parse? g with
    | some account => .ok account.statement
    | none => .error (.invalidConfiguration (.notAccount g))
  | _ => .ok [a.name g]

/-- All who get or lose a privilege, with commas between them. -/
def granteeList (a : Adapter) (grantees : List String) : Except DdlError Statement :=
  (grantees.mapM a.grantee).map (Statement.separated ", ")

/-- A privilege with its columns. -/
def privilege (a : Adapter) (p : Privilege) : Statement :=
  if p.isColumnScoped then
    [.words (p.keyword ++ " (")] ++ a.nameList p.columns ++ [.words ")"]
  else [.words p.keyword]

/-- Privileges with commas between them. -/
def privilegeList (a : Adapter) (ps : List Privilege) : Statement :=
  Statement.separated ", " (ps.map a.privilege)

/-- Whether a privilege is restricted to columns although it cannot be. -/
def refusesPrivilege (a : Adapter) (p : Privilege) : Bool :=
  p.isColumnScoped && !a.dialect.supportsColumnPrivilege p

/-- Whether a request names somebody and something, and only what can be
    granted. -/
def checkPrivileges (a : Adapter) (grantees : List String) (ps : List Privilege) :
    Except DdlError Unit :=
  if grantees.isEmpty then .error (.invalidConfiguration .noGrantee)
  else if ps.isEmpty then .error (.invalidConfiguration .noPrivilege)
  else
    match ps.find? a.refusesPrivilege with
    | some p => .error (.unsupportedGrantGranularity a.dialect p)
    | none => .ok ()

/-- The statement that gives or takes away privileges. -/
def privilegeStatement (a : Adapter) (verb : GrantVerb) (schema : Option String) (table : String)
    (grantees : List String) (ps : List Privilege) : Except DdlError Statement := do
  a.checkPrivileges grantees ps
  let granteeList ← a.granteeList grantees
  return [.words verb.opening] ++ a.privilegeList ps ++ [.words " ON "] ++
    a.tableName schema table ++ [.words verb.preposition] ++ granteeList

/-- The statement with the event that shows it. -/
def changePrivileges (a : Adapter) (verb : GrantVerb) (schema : Option String) (table : String)
    (grantees : List String) (ps : List Privilege) : Logged (Except DdlError Statement) :=
  match a.privilegeStatement verb schema table grantees ps with
  | .ok s => ⟨.ok s, [.debug (a.dialect.productName ++ ": " ++ a.text s)]⟩
  | .error e => ⟨.error e, []⟩

/-- A statement that gives privileges. -/
def grant (a : Adapter) (schema : Option String) (table : String) (grantees : List String)
    (ps : List Privilege) : Logged (Except DdlError Statement) :=
  a.changePrivileges .grant schema table grantees ps

/-- A statement that takes privileges away. -/
def revoke (a : Adapter) (schema : Option String) (table : String) (grantees : List String)
    (ps : List Privilege) : Logged (Except DdlError Statement) :=
  a.changePrivileges .revoke schema table grantees ps

end Adapter

end PortableDdl
