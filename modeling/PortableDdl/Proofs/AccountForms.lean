import PortableDdl.Proofs.PrivilegeText
import PortableDdl.Proofs.WordForms

/-!
# Which texts name an account

An account of MySQL is one part, or a user and a host around the last at sign of
a text, and each part is a bare name or stands between quotes that it does not
hold. What is written for an account are literals of just these parts. The at sign
is looked for in the whole text, so one between the quotes of the last part is
taken for the separator, and the text is refused.
-/

namespace PortableDdl
open Sql Text

/-- The text that is written for one who gets or loses a privilege. -/
def Adapter.granteeText (a : Adapter) (g : String) : Except DdlError String := (a.grantee g).map a.text

namespace Account

/-- Whether a character may stand in a part without quotes. -/
def Plain (c : Char) : Prop :=
  ('a' ≤ c ∧ c ≤ 'z') ∨ ('A' ≤ c ∧ c ≤ 'Z') ∨ ('0' ≤ c ∧ c ≤ '9') ∨ c ∈ ['_','$','.','-','%',':','/']

/-- What may stand around a part. -/
def quotes : List Char := ['\'','\x60','"']

/-- The ways to write a part of an account. -/
inductive Written (value : List Char) : List Char → Prop
  | bare (some : value ≠ []) (plain : ∀ c ∈ value, Plain c) : Written value value
  | quoted {quote : Char} (known : quote ∈ quotes) (outside : quote ∉ value) :
      Written value (quote :: (value ++ [quote]))

theorem isBare_iff {c : Char} : isBare c = true ↔ Plain c := by
  rw [isBare,Bool.or_eq_true,isAlphanum_iff,List.contains_iff_mem,Plain]
  simp only [or_assoc]

theorem isQuote_iff {c : Char} : isQuote c = true ↔ c ∈ quotes := by
  simp [isQuote,quotes,or_assoc]

theorem not_plain_of_quote {c : Char} (known : c ∈ quotes) : ¬ Plain c := by
  intro plain
  have bare := isBare_iff.mpr plain
  simp only [quotes,List.mem_cons,List.not_mem_nil,or_false] at known
  rcases known with rfl | rfl | rfl
  · exact absurd bare (by decide)
  · exact absurd bare (by decide)
  · exact absurd bare (by decide)

theorem not_plain_at : ¬ Plain '@' := by
  rw [← isBare_iff]
  decide

/-- What begins with a quote is written between this quote. -/
theorem closed_of_opened {quote : Char} {value rest : List Char} (known : quote ∈ quotes)
    (written : Written value (quote :: rest)) : rest = value ++ [quote] ∧ quote ∉ value := by
  cases written with
  | bare _ plain => exact absurd (plain quote List.mem_cons_self) (not_plain_of_quote known)
  | quoted _ outside => exact ⟨rfl,outside⟩

/-- What ends in a quote is written between this quote. -/
theorem opened_of_closed {quote : Char} {value start : List Char} (known : quote ∈ quotes)
    (written : Written value (start ++ [quote])) : start = quote :: value ∧ quote ∉ value := by
  generalize whole : start ++ [quote] = text at written
  cases written with
  | bare _ plain =>
    have member : quote ∈ value := by rw [← whole]; simp
    exact absurd (plain quote member) (not_plain_of_quote known)
  | @quoted other _ outside =>
    rw [← List.cons_append] at whole
    obtain ⟨rfl,same⟩ := List.append_inj' whole rfl
    obtain rfl := List.singleton_inj.mp same
    exact ⟨rfl,outside⟩

theorem part?_eq_some_iff {text value : List Char} : part? text = some value ↔ Written value text := by
  constructor
  · intro read
    cases text with
    | nil => cases read
    | cons c rest =>
      rw [part?] at read
      split at read
      · rename_i wrapped
        obtain ⟨quote,closed⟩ := Bool.and_eq_true_iff.mp wrapped
        obtain ⟨inner,rfl⟩ := List.getLast?_eq_some_iff.mp (beq_iff_eq.mp closed)
        rw [List.dropLast_concat] at read
        split at read
        · cases read
        · rename_i outside
          obtain rfl := Option.some.inj read
          exact .quoted (isQuote_iff.mp quote) fun member => outside (List.contains_iff_mem.mpr member)
      · split at read
        · rename_i bare
          obtain ⟨first,others⟩ := Bool.and_eq_true_iff.mp bare
          obtain rfl := Option.some.inj read
          refine .bare (List.cons_ne_nil c rest) (List.forall_mem_cons.mpr ⟨isBare_iff.mp first,?_⟩)
          exact fun d member => isBare_iff.mp (List.all_eq_true.mp others d member)
        · cases read
  · intro written
    cases written with
    | bare some plain =>
      obtain ⟨c,rest,rfl⟩ := List.exists_cons_of_ne_nil some
      obtain ⟨first,others⟩ := List.forall_mem_cons.mp plain
      have noQuote : isQuote c = false := by
        rw [Bool.eq_false_iff]
        exact fun quote => not_plain_of_quote (isQuote_iff.mp quote) first
      have rest : rest.all isBare = true := List.all_eq_true.mpr fun d member => isBare_iff.mpr (others d member)
      simp [part?,noQuote,isBare_iff.mpr first,rest]
    | quoted known outside =>
      have wrapped := isQuote_iff.mpr known
      simp [part?,wrapped,outside]

/-- The texts that name an account. -/
inductive Names : Account → List Char → Prop
  | user {user : List Char} {text : List Char} (written : Written user text) (whole : '@' ∉ text) :
      Names ⟨String.ofList user,none⟩ text
  | userAtHost {user host before behind : List Char} (left : Written user before) (right : Written host behind)
      (last : '@' ∉ behind) : Names ⟨String.ofList user,some (String.ofList host)⟩ (before ++ '@' :: behind)

theorem names_whole_iff {account : Account} {text : List Char} (whole : '@' ∉ text) :
    Names account text ↔ ∃ user, Written user text ∧ ⟨String.ofList user,none⟩ = account := by
  constructor
  · intro names
    cases names with
    | user written _ => exact ⟨_,written,rfl⟩
    | userAtHost => simp at whole
  · rintro ⟨user,written,rfl⟩
    exact .user written whole

/-- The host is what stands behind the last at sign, and no other. -/
theorem names_cut_iff {account : Account} {before behind : List Char} (last : '@' ∉ behind) :
    Names account (before ++ '@' :: behind) ↔
      ∃ user host, Written user before ∧ Written host behind ∧
        ⟨String.ofList user,some (String.ofList host)⟩ = account := by
  constructor
  · intro names
    generalize joined : before ++ '@' :: behind = text at names
    cases names with
    | user _ whole =>
      rw [← joined] at whole
      simp at whole
    | @userAtHost user host before' behind' left right last' =>
      -- The text has one last at sign only, so both cuts are the same.
      have cut : cutLast? '@' (before ++ '@' :: behind) = some (before,behind) := cutLast?_of_append last
      rw [joined,cutLast?_of_append last'] at cut
      obtain ⟨rfl,rfl⟩ := Prod.mk.inj (Option.some.inj cut)
      exact ⟨user,host,left,right,rfl⟩
  · rintro ⟨user,host,left,right,rfl⟩
    exact .userAtHost left right last

theorem parse?_eq_some_iff {g : String} {account : Account} : parse? g = some account ↔ Names account g.toList := by
  rw [parse?]
  cases cut : cutLast? '@' g.toList with
  | none =>
    rw [names_whole_iff (cutLast?_eq_none_iff.mp cut)]
    simp [part?_eq_some_iff]
  | some p =>
    obtain ⟨before,behind⟩ := p
    obtain ⟨joined,last⟩ := cutLast?_eq_some_iff.mp cut
    rw [joined,names_cut_iff last]
    simp [Option.bind_eq_some_iff,part?_eq_some_iff]

/-- The user as a literal, and behind an at sign the host as another. -/
def literals (account : Account) : List Char :=
  literal account.user.toList ++ account.host.elim [] fun host => '@' :: literal host.toList

/-- What a scanner has to find in the text of an account. -/
def tokens (account : Account) : List Token :=
  .literal account.user :: account.host.elim [] fun host => [.outside '@',.literal host]

theorem text_statement (a : Adapter) (account : Account) : a.text account.statement = String.ofList account.literals := by
  cases account with
  | mk user host => cases host <;> simp [Adapter.text,Statement.text,Statement.chars,statement,Fragment.chars,literals]

theorem scan_literals (account : Account) : scanText? .mysql (String.ofList account.literals) = some account.tokens := by
  have readable : Readable .mysql account.statement := readable_recipient (r := .account account) fun _ _ => rfl
  have scanned := scanText?_text readable
  have text := text_statement (.ofDialect .mysql) account
  rw [← text,Adapter.text]
  refine scanned.trans ?_
  cases account with
  | mk user host => cases host <;> rfl

theorem tokens_injective {account other : Account} (same : account.tokens = other.tokens) : account = other := by
  obtain ⟨user,host⟩ := account
  obtain ⟨user',host'⟩ := other
  obtain ⟨sameUser,behind⟩ := List.cons.inj same
  obtain rfl := Token.literal.inj sameUser
  cases host with
  | none =>
    cases host' with
    | none => rfl
    | some _ => cases behind
  | some host =>
    cases host' with
    | none => cases behind
    | some host' =>
      cases behind
      rfl

/-- Two accounts with the same text are the same. -/
theorem literals_injective {account other : Account} (same : account.literals = other.literals) : account = other := by
  have scanned := scan_literals account
  rw [same,scan_literals other] at scanned
  exact tokens_injective (Option.some.inj scanned.symm)

variable {a : Adapter} {g t : String} {account : Account}

theorem granteeText_eq (mysql : a.dialect = .mysql) (g : String) :
    a.granteeText g = match parse? g with
      | some account => .ok (String.ofList account.literals)
      | none => .error (.invalidConfiguration (.notAccount g)) := by
  rw [Adapter.granteeText,Adapter.grantee,mysql]
  cases parse? g with
  | none => rfl
  | some account => exact congrArg Except.ok (text_statement a account)

theorem granteeText_ok_iff (mysql : a.dialect = .mysql) :
    a.granteeText g = .ok t ↔ ∃ account, Names account g.toList ∧ String.ofList account.literals = t := by
  rw [granteeText_eq mysql]
  simp only [← parse?_eq_some_iff]
  cases parse? g <;> simp

theorem granteeText_refused (mysql : a.dialect = .mysql) (unnamed : ∀ account, ¬ Names account g.toList) :
    a.granteeText g = .error (.invalidConfiguration (.notAccount g)) := by
  rw [granteeText_eq mysql]
  cases parsed : parse? g with
  | none => rfl
  | some account => exact absurd (parse?_eq_some_iff.mp parsed) (unnamed account)

/-- A text names one account at most. -/
theorem names_unique {other : Account} {text : List Char} (one : Names account text) (two : Names other text) :
    account = other := by
  rw [← String.toList_ofList (l := text),← parse?_eq_some_iff] at one two
  exact Option.some.inj (one.symm.trans two)

theorem granteeText_of_names (mysql : a.dialect = .mysql) (names : Names account g.toList) :
    a.granteeText g = .ok (String.ofList account.literals) :=
  (granteeText_ok_iff mysql).mpr ⟨account,names,rfl⟩

/-- A text is taken if and only if it names an account, and refused as no account
    else. A scanner finds in what is written for it the user and the host of this
    account as literals and nothing more, so two texts are written alike if and
    only if they name the same account. -/
theorem taken_text_names_account (mysql : a.dialect = .mysql) :
    (∀ g, (∃ t, a.granteeText g = .ok t) ↔ ∃ account, Names account g.toList) ∧
    (∀ g, (¬ ∃ account, Names account g.toList) → a.granteeText g = .error (.invalidConfiguration (.notAccount g))) ∧
    (∀ g account t, Names account g.toList → a.granteeText g = .ok t → scanText? .mysql t = some account.tokens) ∧
    ∀ g g' account account' t t', Names account g.toList → Names account' g'.toList → a.granteeText g = .ok t →
      a.granteeText g' = .ok t' → (t = t' ↔ account = account') := by
  have writtenAs : ∀ {g account t}, Names account g.toList → a.granteeText g = .ok t →
      String.ofList account.literals = t := by
    intro g account t names written
    exact Except.ok.inj ((granteeText_of_names mysql names).symm.trans written)
  refine ⟨?_,?_,?_,?_⟩
  · intro g
    constructor
    · rintro ⟨t,written⟩
      obtain ⟨account,names,_⟩ := (granteeText_ok_iff mysql).mp written
      exact ⟨account,names⟩
    · rintro ⟨account,names⟩
      exact ⟨_,granteeText_of_names mysql names⟩
  · intro g unnamed
    exact granteeText_refused mysql fun account names => unnamed ⟨account,names⟩
  · intro g account t names written
    rw [← writtenAs names written]
    exact scan_literals account
  · intro g g' account account' t t' names names' written written'
    rw [← writtenAs names written,← writtenAs names' written',String.ofList_inj]
    constructor
    · exact literals_injective
    · rintro rfl
      rfl

theorem taken_text_names_neil :
    Names ⟨"o'neil",some "%"⟩ "\"o'neil\"@'%'".toList ∧ Names ⟨"o'neil",none⟩ "\"o'neil\"".toList ∧
    scanText? .mysql "'o''neil'@'%'" = some [.literal "o'neil",.outside '@',.literal "%"] ∧
    ("'o''neil'@'%'" = "'o''neil'" ↔ (⟨"o'neil",some "%"⟩ : Account) = ⟨"o'neil",none⟩) ∧
    (Adapter.ofDialect .mysql).granteeText "app@" = .error (.invalidConfiguration (.notAccount "app@")) := by
  have mysql : (Adapter.ofDialect .mysql).dialect = .mysql := rfl
  obtain ⟨_,refused,scanned,alike⟩ := taken_text_names_account mysql
  have names : Names ⟨"o'neil",some "%"⟩ "\"o'neil\"@'%'".toList := parse?_eq_some_iff.mp (by decide)
  have alone : Names ⟨"o'neil",none⟩ "\"o'neil\"".toList := parse?_eq_some_iff.mp (by decide)
  have written : (Adapter.ofDialect .mysql).granteeText "\"o'neil\"@'%'" = .ok "'o''neil'@'%'" := by
    rw [granteeText_of_names mysql names]
    rfl
  have writtenAlone : (Adapter.ofDialect .mysql).granteeText "\"o'neil\"" = .ok "'o''neil'" := by
    rw [granteeText_of_names mysql alone]
    rfl
  refine ⟨names,alone,scanned _ _ _ names written,alike _ _ _ _ _ _ names alone written writtenAlone,refused "app@" ?_⟩
  rintro ⟨account,unknown⟩
  have parsed := parse?_eq_some_iff.mpr unknown
  have nothing : parse? "app@" = none := by decide
  cases nothing.symm.trans parsed

/-! ## At signs between quotes -/

theorem at_ne_quote {quote : Char} (known : quote ∈ quotes) : '@' ≠ quote := by
  rintro rfl
  exact absurd known (by decide)

theorem at_mem_iff {value text : List Char} (written : Written value text) : '@' ∈ text ↔ '@' ∈ value := by
  cases written with
  | bare => rfl
  | quoted known _ => simp [at_ne_quote known]

theorem quoted_of_at {value text : List Char} (written : Written value text) (member : '@' ∈ value) :
    ∃ quote ∈ quotes, text = quote :: (value ++ [quote]) ∧ quote ∉ value := by
  cases written with
  | bare _ plain => exact absurd (plain '@' member) not_plain_at
  | quoted known outside => exact ⟨_,known,rfl,outside⟩

theorem last_at {quote : Char} {value : List Char} (known : quote ∈ quotes) (member : '@' ∈ value) :
    ∃ before behind, value = before ++ '@' :: behind ∧ '@' ∉ behind ++ [quote] := by
  cases cut : cutLast? '@' value with
  | none => exact absurd member (cutLast?_eq_none_iff.mp cut)
  | some p =>
    obtain ⟨joined,last⟩ := cutLast?_eq_some_iff.mp cut
    exact ⟨p.1,p.2,joined,by simp [last,at_ne_quote known]⟩

/-- In front of an at sign between its quotes a user is not closed. -/
theorem user_with_at_unnamed {user text : List Char} (written : Written user text) (member : '@' ∈ user) :
    ¬ Names account text := by
  intro names
  obtain ⟨quote,known,rfl,outside⟩ := quoted_of_at written member
  obtain ⟨before,behind,rfl,last⟩ := last_at known member
  -- The user would be what stands before the last at sign, but its quote is open there.
  have cut : quote :: ((before ++ '@' :: behind) ++ [quote]) = (quote :: before) ++ '@' :: (behind ++ [quote]) := by simp
  rw [cut,names_cut_iff last] at names
  obtain ⟨_,_,left,_,_⟩ := names
  obtain ⟨closed,_⟩ := closed_of_opened known left
  exact outside (by simp [closed])

/-- Behind an at sign between its quotes a host is not opened. -/
theorem host_with_at_unnamed {host left right : List Char} (written : Written host right) (member : '@' ∈ host) :
    ¬ Names account (left ++ '@' :: right) := by
  intro names
  obtain ⟨quote,known,rfl,outside⟩ := quoted_of_at written member
  obtain ⟨before,behind,rfl,last⟩ := last_at known member
  -- The host would be what stands behind the last at sign, but only ends in its quote.
  have cut : left ++ '@' :: quote :: ((before ++ '@' :: behind) ++ [quote]) =
      (left ++ '@' :: quote :: before) ++ '@' :: (behind ++ [quote]) := by simp
  rw [cut,names_cut_iff last] at names
  obtain ⟨_,_,_,right,_⟩ := names
  obtain ⟨opened,_⟩ := opened_of_closed known right
  exact outside (by simp [opened])

theorem user_named {user text : List Char} (written : Written user text) (absent : '@' ∉ user) :
    Names ⟨String.ofList user,none⟩ text :=
  .user written fun member => absent ((at_mem_iff written).mp member)

theorem userAtHost_named {user host left right : List Char} (writtenUser : Written user left)
    (writtenHost : Written host right) (absent : '@' ∉ host) :
    Names ⟨String.ofList user,some (String.ofList host)⟩ (left ++ '@' :: right) :=
  .userAtHost writtenUser writtenHost fun member => absent ((at_mem_iff writtenHost).mp member)

/-- A user alone is taken, and written as the literal of just this user, if and
    only if it holds no at sign; a user and a host are, if and only if the host
    holds none. All other characters may stand between the quotes of a part. -/
theorem written_parts_taken (mysql : a.dialect = .mysql) :
    (∀ user text, Written user text → a.granteeText (String.ofList text) =
      if '@' ∈ user then .error (.invalidConfiguration (.notAccount (String.ofList text)))
      else .ok (String.ofList (literal user))) ∧
    ∀ user left host right, Written user left → Written host right →
      a.granteeText (String.ofList (left ++ '@' :: right)) =
        if '@' ∈ host then .error (.invalidConfiguration (.notAccount (String.ofList (left ++ '@' :: right))))
        else .ok (String.ofList (literal user ++ '@' :: literal host)) := by
  have refused : ∀ text, (∀ account, ¬ Names account text) →
      a.granteeText (String.ofList text) = .error (.invalidConfiguration (.notAccount (String.ofList text))) := by
    intro text unnamed
    exact granteeText_refused mysql fun account => by rw [String.toList_ofList]; exact unnamed account
  have taken : ∀ account text, Names account text →
      a.granteeText (String.ofList text) = .ok (String.ofList account.literals) := by
    intro account text names
    exact granteeText_of_names mysql (by rwa [String.toList_ofList])
  constructor
  · intro user text written
    split_ifs with member
    · exact refused text fun account => user_with_at_unnamed written member
    · rw [taken _ text (user_named written member)]
      simp [literals]
  · intro user left host right writtenUser writtenHost
    split_ifs with member
    · exact refused _ fun account => host_with_at_unnamed writtenHost member
    · rw [taken _ _ (userAtHost_named writtenUser writtenHost member)]
      simp [literals]

theorem written_parts_taken_of_any_character :
    Written "a@'\\".toList "`a@'\\`".toList ∧ Written "%".toList "%".toList ∧
    (Adapter.ofDialect .mysql).granteeText "`a@'\\`@%" = .ok "'a@''\\\\'@'%'" := by
  have mysql : (Adapter.ofDialect .mysql).dialect = .mysql := rfl
  have user : Written "a@'\\".toList "`a@'\\`".toList := part?_eq_some_iff.mp (by decide)
  have host : Written "%".toList "%".toList := part?_eq_some_iff.mp (by decide)
  refine ⟨user,host,?_⟩
  have taken := (written_parts_taken mysql).2 _ _ _ _ user host
  rw [if_neg (by decide)] at taken
  exact taken

/-- Neither a user alone nor a host can be written with an at sign. -/
theorem at_sign_of_last_part_refused :
    (Written "a@b".toList "'a@b'".toList ∧ (Adapter.ofDialect .mysql).granteeText "'a@b'" =
      .error (.invalidConfiguration (.notAccount "'a@b'"))) ∧
    Written "c".toList "c".toList ∧ (Adapter.ofDialect .mysql).granteeText "c@'a@b'" =
      .error (.invalidConfiguration (.notAccount "c@'a@b'")) := by
  have part : Written "a@b".toList "'a@b'".toList := part?_eq_some_iff.mp (by decide)
  exact ⟨⟨part,rfl⟩,part?_eq_some_iff.mp (by decide),rfl⟩

end Account
end PortableDdl
