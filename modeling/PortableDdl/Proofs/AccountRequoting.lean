import PortableDdl.Proofs.AccountForms

/-!
# Accounts that are written again

The text of an account names an account in turn. It is cut at the same at sign,
but what stands between its quotes is taken as it is: a single quote in a part
makes it none, and the backslashes of a part are written twice once more.
-/

namespace PortableDdl

namespace Sql

@[simp] theorem mem_doubled {special : Char → Bool} {c : Char} {cs : List Char} : c ∈ doubled special cs ↔ c ∈ cs := by
  induction cs with
  | nil => rfl
  | cons d cs ih =>
    rw [doubled_cons,List.mem_append,ih,List.mem_cons]
    cases special d <;> simp

theorem length_doubled (special : Char → Bool) (cs : List Char) :
    (doubled special cs).length = cs.length + cs.countP special := by
  induction cs with
  | nil => rfl
  | cons c cs ih =>
    rw [doubled_cons,List.length_append,ih,List.countP_cons,List.length_cons]
    cases special c
    · simp only [Bool.false_eq_true,if_false,List.length_singleton]
      omega
    · simp only [if_true,List.length_cons,List.length_nil]
      omega

/-- Only what has nothing to be doubled stays as it is. -/
theorem doubled_eq_self_iff {special : Char → Bool} {cs : List Char} :
    doubled special cs = cs ↔ ∀ c ∈ cs, special c = false := by
  constructor
  · intro same
    have length := length_doubled special cs
    rw [same] at length
    have none : cs.countP special = 0 := by omega
    intro c member
    simpa using List.countP_eq_zero.mp none c member
  · intro plain
    induction cs with
    | nil => rfl
    | cons c cs ih =>
      obtain ⟨first,others⟩ := List.forall_mem_cons.mp plain
      rw [doubled_cons,first,ih others]
      rfl

theorem noSpecial_iff {cs : List Char} : (∀ c ∈ cs, isLiteralSpecial c = false) ↔ '\'' ∉ cs ∧ '\\' ∉ cs := by
  constructor
  · intro plain
    exact ⟨fun member => absurd (plain _ member) (by decide),fun member => absurd (plain _ member) (by decide)⟩
  · rintro ⟨noQuote,noBackslash⟩ c member
    have quote : c ≠ '\'' := fun same => noQuote (same ▸ member)
    have backslash : c ≠ '\\' := fun same => noBackslash (same ▸ member)
    simp [isLiteralSpecial,quote,backslash]

@[simp] theorem mem_literal {c : Char} {cs : List Char} (other : c ≠ '\'') : c ∈ literal cs ↔ c ∈ cs := by
  simp [literal,other]

end Sql

open Sql Text

namespace Account

theorem at_mem_literal {cs : List Char} : '@' ∈ literal cs ↔ '@' ∈ cs := mem_literal (by decide)

theorem written_literal_iff {value cs : List Char} :
    Written value (literal cs) ↔ value = doubled isLiteralSpecial cs ∧ '\'' ∉ cs := by
  have known : '\'' ∈ quotes := by decide
  constructor
  · intro written
    obtain ⟨closed,outside⟩ := closed_of_opened known written
    obtain rfl := List.append_cancel_right closed
    exact ⟨rfl,fun member => outside (mem_doubled.mpr member)⟩
  · rintro ⟨rfl,outside⟩
    exact .quoted known fun member => outside (mem_doubled.mp member)

/-- The user, and the host if there is one. -/
def parts (account : Account) : List String := account.user :: account.host.toList

/-- The account that the text of an account names, if it names one. -/
def doubledParts (account : Account) : Account where
  user := String.ofList (doubled isLiteralSpecial account.user.toList)
  host := account.host.map fun host => String.ofList (doubled isLiteralSpecial host.toList)

/-- Whether no at sign stands in the last part. -/
def LastWhole (account : Account) : Prop := '@' ∉ (account.host.getD account.user).toList

theorem lastWhole_of_names {account : Account} {text : List Char} (names : Names account text) : account.LastWhole := by
  cases names with
  | user written whole =>
    intro member
    rw [Option.getD_none,String.toList_ofList] at member
    exact whole ((at_mem_iff written).mpr member)
  | userAtHost _ written last =>
    intro member
    rw [Option.getD_some,String.toList_ofList] at member
    exact last ((at_mem_iff written).mpr member)

variable {account : Account}

theorem cutLast?_literals (last : account.LastWhole) :
    cutLast? '@' account.literals =
      account.host.map fun host => (literal account.user.toList,literal host.toList) := by
  obtain ⟨user,host⟩ := account
  cases host with
  | none =>
    rw [literals,Option.elim_none,List.append_nil,Option.map_none,cutLast?_eq_none_iff]
    exact fun member => last (at_mem_literal.mp member)
  | some host =>
    rw [literals,Option.elim_some,Option.map_some]
    exact cutLast?_of_append fun member => last (at_mem_literal.mp member)

theorem names_literals_iff {other : Account} (last : account.LastWhole) :
    Names other account.literals ↔ account.doubledParts = other ∧ ∀ part ∈ account.parts, '\'' ∉ part.toList := by
  obtain ⟨user,host⟩ := account
  cases host with
  | none =>
    have whole : '@' ∉ literal user.toList := fun member => last (at_mem_literal.mp member)
    rw [literals,Option.elim_none,List.append_nil,names_whole_iff whole]
    simp [written_literal_iff,doubledParts,parts,and_comm]
  | some host =>
    have behind : '@' ∉ literal host.toList := fun member => last (at_mem_literal.mp member)
    rw [literals,Option.elim_some,names_cut_iff behind]
    simp only [written_literal_iff,doubledParts,parts,Option.map_some,Option.toList_some,List.forall_mem_cons]
    constructor
    · rintro ⟨_,_,⟨rfl,user⟩,⟨rfl,host⟩,same⟩
      exact ⟨same,user,host,List.forall_mem_nil _⟩
    · rintro ⟨same,user,host,_⟩
      exact ⟨_,_,⟨rfl,user⟩,⟨rfl,host⟩,same⟩

theorem doubledParts_eq_self_iff :
    account.doubledParts = account ↔ ∀ part ∈ account.parts, '\'' ∉ part.toList ∧ '\\' ∉ part.toList := by
  have untouched : ∀ part : String, String.ofList (doubled isLiteralSpecial part.toList) = part ↔
      '\'' ∉ part.toList ∧ '\\' ∉ part.toList := by
    intro part
    rw [← String.toList_inj,String.toList_ofList,doubled_eq_self_iff,noSpecial_iff]
  obtain ⟨user,host⟩ := account
  cases host with
  | none => simp [doubledParts,parts,untouched]
  | some host => simp [doubledParts,parts,untouched]

variable {a : Adapter} {g t : String}

/-- What is written for an account is cut again between its user and its host. It
    is taken again if and only if no part holds a single quote, and stays as it is
    if and only if no part holds a backslash either. -/
theorem written_account_again (mysql : a.dialect = .mysql) (written : a.granteeText g = .ok t) :
    ∃ account, Names account g.toList ∧
      cutLast? '@' t.toList = account.host.map (fun host => (literal account.user.toList,literal host.toList)) ∧
      ((∃ again, a.granteeText t = .ok again) ↔ ∀ part ∈ account.parts, '\'' ∉ part.toList) ∧
      (a.granteeText t = .ok t ↔ ∀ part ∈ account.parts, '\'' ∉ part.toList ∧ '\\' ∉ part.toList) := by
  obtain ⟨account,names,rfl⟩ := (granteeText_ok_iff mysql).mp written
  have last := lastWhole_of_names names
  -- Taken again, the text is that of the account with the parts that stand between its quotes.
  have again : ∀ text, a.granteeText (String.ofList account.literals) = .ok text ↔
      String.ofList account.doubledParts.literals = text ∧ ∀ part ∈ account.parts, '\'' ∉ part.toList := by
    intro text
    rw [granteeText_ok_iff mysql,String.toList_ofList]
    constructor
    · rintro ⟨other,named,rfl⟩
      obtain ⟨rfl,plain⟩ := (names_literals_iff last).mp named
      exact ⟨rfl,plain⟩
    · rintro ⟨rfl,plain⟩
      exact ⟨_,(names_literals_iff last).mpr ⟨rfl,plain⟩,rfl⟩
  refine ⟨account,names,?_,?_,?_⟩
  · rw [String.toList_ofList]
    exact cutLast?_literals last
  · constructor
    · rintro ⟨text,taken⟩
      exact ((again text).mp taken).2
    · intro plain
      exact ⟨_,(again _).mpr ⟨rfl,plain⟩⟩
  · rw [again,String.ofList_inj]
    constructor
    · rintro ⟨same,_⟩
      exact doubledParts_eq_self_iff.mp (literals_injective same)
    · intro plain
      rw [doubledParts_eq_self_iff.mpr plain]
      exact ⟨rfl,fun part member => (plain part member).1⟩

/-- A backslash is doubled each time. -/
theorem written_account_again_of_backslash :
    (Adapter.ofDialect .mysql).granteeText "'a@\\'@%" = .ok "'a@\\\\'@'%'" ∧
    (∃ again, (Adapter.ofDialect .mysql).granteeText "'a@\\\\'@'%'" = .ok again) ∧
    (Adapter.ofDialect .mysql).granteeText "'a@\\\\'@'%'" ≠ .ok "'a@\\\\'@'%'" := by
  have mysql : (Adapter.ofDialect .mysql).dialect = .mysql := rfl
  have written : (Adapter.ofDialect .mysql).granteeText "'a@\\'@%" = .ok "'a@\\\\'@'%'" := rfl
  obtain ⟨account,names,_,taken,same⟩ := written_account_again mysql written
  have named : Names ⟨"a@\\",some "%"⟩ "'a@\\'@%".toList := parse?_eq_some_iff.mp (by decide)
  obtain rfl := names_unique names named
  exact ⟨written,taken.mpr (by decide),fun unchanged => absurd (same.mp unchanged) (by decide)⟩

end Account
end PortableDdl
