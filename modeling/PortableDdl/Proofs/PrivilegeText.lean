import PortableDdl.Adapter.Grant
import PortableDdl.Proofs.Reader

/-!
# What a grant says

The text of a grant or a revocation is read back into what it is about: the
privileges with their columns, the table and those who get or lose them. No name
among them can make the text say something else.
-/

namespace PortableDdl
open Sql

/-- One who gets or loses a privilege, as the text says it. -/
inductive Recipient where
  | name (stored : String)
  | account (account : Account)
deriving DecidableEq, Repr

/-- A privilege as the text says it: its keyword and its stored columns. -/
abbrev PrivilegeEntry := String × List String

/-- What a grant or a revocation says, its names in their stored case. -/
structure PrivilegeReading where
  verb : GrantVerb
  privileges : List PrivilegeEntry
  /-- The stored schema of the table, if the text has one. -/
  schema : Option String
  table : String
  recipients : List Recipient
deriving DecidableEq, Repr

/-- The keywords of all privileges. -/
def privilegeKeywords : List String :=
  ["ALL PRIVILEGES","ALTER","DELETE","INDEX","TRIGGER","USAGE","INSERT","REFERENCES","SELECT","UPDATE"]

namespace Sql.Reader

/-- Reads columns in parentheses, or nothing where there are no parentheses. -/
def columnList : Reader (List String) := fun ts =>
  match skip [' ','('] ts with
  | none => some ([],ts)
  | some more =>
    StateT.run (do
      let columns ← commaSeparated name
      words ")"
      return columns) more

/-- Reads a privilege. -/
def privilege : Reader PrivilegeEntry := do
  let keyword ← oneOf (privilegeKeywords.map fun k => (k,k))
  return (keyword,← columnList)

end Sql.Reader

/-- A request to give or to take away privileges. -/
structure PrivilegeRequest where
  verb : GrantVerb
  schema : Option String
  table : String
  grantees : List String
  privileges : List Privilege
deriving DecidableEq, Repr

/-- The statement for a request, with its events. -/
def PrivilegeRequest.perform (r : PrivilegeRequest) (a : Adapter) : Logged (Except DdlError Statement) :=
  match r.verb with
  | .grant => a.grant r.schema r.table r.grantees r.privileges
  | .revoke => a.revoke r.schema r.table r.grantees r.privileges

/-- One who gets or loses a privilege, written. -/
def Recipient.statement : Recipient → Statement
  | .name n => [.name n]
  | .account a => a.statement

/-- A privilege, written. -/
def entryStatement (p : PrivilegeEntry) : Statement :=
  if p.2.isEmpty then [.words p.1] else [.words (p.1 ++ " (")] ++ names p.2 ++ [.words ")"]

/-- A grant or a revocation, written. -/
def PrivilegeReading.statement (c : PrivilegeReading) : Statement :=
  [.words c.verb.opening] ++ (Statement.separated ", " (c.privileges.map entryStatement) ++
    ([.words " ON "] ++ (located c.schema c.table ++ ([.words c.verb.preposition] ++
      Statement.separated ", " (c.recipients.map Recipient.statement)))))

/-- Whether a reading can come from the text of a statement in a dialect. -/
structure PrivilegeReading.Possible (d : Dialect) (c : PrivilegeReading) : Prop where
  somePrivilege : c.privileges ≠ []
  keywords : ∀ p ∈ c.privileges, p.1 ∈ privilegeKeywords
  someRecipient : c.recipients ≠ []
  /-- Accounts are only named where literals are read. -/
  accounts : ∀ account, .account account ∈ c.recipients → d.readsLiterals = true

theorem readable_literal {d : Dialect} (literals : d.readsLiterals = true) (v : String) : Readable d [.literal v] :=
  readable_cons.mpr ⟨literals,by simp,readable_nil d⟩

theorem readable_recipient {d : Dialect} {r : Recipient}
    (literals : ∀ account, r = .account account → d.readsLiterals = true) : Readable d r.statement := by
  match r with
  | .name n => exact readable_name d n
  | .account ⟨user,some host⟩ =>
    have both := literals _ rfl
    exact readable_around.mpr ⟨readable_literal both user,by decide,readable_literal both host⟩
  | .account ⟨user,none⟩ => exact readable_literal (literals _ rfl) user

end PortableDdl
