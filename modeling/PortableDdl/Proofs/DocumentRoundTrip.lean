import Mathlib.Data.List.TakeWhile
import PortableDdl.Document.Configuration
import PortableDdl.Proofs.DocumentFields

/-!
# Writing documents and reading them back

What a request is made of is read back from the text of its document, whatever
characters stand in its names and whatever its numbers are. A configuration is
read back if its settings make sense, and refused for them if they do not.
-/

namespace PortableDdl

open Json (Value)

namespace Json

/-- A whole part is a number. -/
theorem isNumber_of_wholePart {cs : List Char} (whole : isWholePart cs = true) : isNumber cs = true := by
  have digits : ∀ c ∈ cs, c.isDigit = true := by
    simp only [isWholePart,isDigits,Bool.and_eq_true,List.all_eq_true] at whole
    exact whole.1.2
  have unsigned : afterMinus cs = cs := by
    unfold afterMinus
    split
    · exact absurd (digits '-' (by simp)) (by decide)
    · rfl
  have taken : cs.takeWhile Char.isDigit = cs := List.takeWhile_eq_self_iff.mpr digits
  have dropped : cs.dropWhile Char.isDigit = [] := List.dropWhile_eq_nil_iff.mpr digits
  simp [isNumber,unsigned,taken,dropped,whole,isNumberTail,isExponent]

theorem head?_toDigits {n : Nat} (positive : 0 < n) : (Nat.toDigits 10 n).head? ≠ some '0' := by
  induction n using Nat.strongRecOn with
  | ind n ih =>
    by_cases small : n < 10
    · rw [Nat.toDigits_of_lt_base small]
      have digit : ∀ d < 10, 0 < d → d.digitChar ≠ '0' := by decide
      simpa using digit n small positive
    · have shorter := ih (n / 10) (by omega) (by omega)
      rw [Nat.toDigits_of_base_le (by decide) (by omega)]
      obtain ⟨d,ds,digits⟩ := List.exists_cons_of_ne_nil (Nat.toDigits_ne_nil (n := n / 10) (b := 10))
      rw [digits] at shorter ⊢
      exact shorter

theorem isDigits_toDigits (n : Nat) : isDigits (Nat.toDigits 10 n) = true := by
  simp only [isDigits,Bool.and_eq_true,List.all_eq_true]
  exact ⟨by simp [Nat.toDigits_ne_nil],fun c member => Nat.isDigit_of_mem_toDigits (by decide) (by decide) member⟩

theorem isWholePart_toDigits (n : Nat) : isWholePart (Nat.toDigits 10 n) = true := by
  by_cases zero : n = 0
  · subst zero
    decide
  · have leading := head?_toDigits (Nat.pos_of_ne_zero zero)
    simp [isWholePart,isDigits_toDigits,leading]

theorem isNumber_decimal (n : UInt32) : isNumber (Text.decimal n).toList = true := by
  rw [Text.decimal,Nat.toList_repr]
  exact isNumber_of_wholePart (isWholePart_toDigits _)

theorem digits32?_decimal (n : UInt32) : Text.digits32? (Text.decimal n).toList = some n := by
  have digits := isDigits_toDigits n.toNat
  rw [isDigits] at digits
  rw [Text.digits32?,Text.decimal,Nat.toList_repr,Text.digits?,if_pos digits]
  simp [Text.word32?,n.toNat_lt]

@[simp] theorem wellFormed_number (n : UInt32) : (numberJson n).WellFormed := by
  simpa [Value.WellFormed,numberJson,Value.tokens,Token.Valid] using isNumber_decimal n

theorem strings?_strings (ss : List String) : (Value.strings ss).strings? = some ss := by
  induction ss with
  | nil => rfl
  | cons s ss ih =>
    have rest : (ss.map Value.string).mapM Value.string? = some ss := ih
    simp [Value.strings,Value.strings?,rest,Value.string,Value.string?]

theorem optionalString?_optionalString (s : Option String) : (Value.optionalString s).optionalString? = some s := by
  cases s <;> rfl

theorem word32?_numberJson (n : UInt32) : (numberJson n).word32? = some n := digits32?_decimal n

theorem optionalWord32?_numberJson (n : Option UInt32) : (n.elim .null numberJson).optionalWord32? = some n := by
  cases n with
  | none => rfl
  | some n => exact congrArg (Option.map some) (word32?_numberJson n)

/-- Whether values of a type are read back from the text that they are written
    as. -/
def ReadsBack {α : Type} (write : α → Value) (read : Value → Option α) : Prop :=
  ∀ x, (read? (write x).write).bind read = some x

theorem readsBack {α : Type} {write : α → Value} {read : Value → Option α} (wellFormed : ∀ x, (write x).WellFormed)
    (inverse : ∀ x, read (write x) = some x) : ReadsBack write read := by
  intro x
  rw [read?_write (wellFormed x)]
  exact inverse x

end Json

theorem Dialect.ofJson?_toJson (d : Dialect) : Dialect.ofJson? d.toJson = some d := by
  cases d <;> decide

theorem ColumnType.ofJson?_toJson (t : ColumnType) : ColumnType.ofJson? t.toJson = some t := by
  cases t <;> decide

theorem ForeignKeyAction.ofJson?_toJson (a : ForeignKeyAction) : ForeignKeyAction.ofJson? a.toJson = some a := by
  cases a <;> decide

theorem ForeignKeyAction.optionalOfJson?_toJson (a : Option ForeignKeyAction) :
    ForeignKeyAction.optionalOfJson? (a.elim .null ForeignKeyAction.toJson) = some a := by
  cases a with
  | none => rfl
  | some a => exact congrArg (Option.map some) (ForeignKeyAction.ofJson?_toJson a)

theorem CharacterSet.ofJson?_toJson (c : CharacterSet) : CharacterSet.ofJson? c.toJson = some c := by
  cases c with
  | unicode => decide
  | named n => rfl

theorem Limit.ofJson?_toJson (l : Limit) : Limit.ofJson? l.toJson = some l := by
  cases l with
  | length n => exact congrArg (Option.map Limit.length) (Json.word32?_numberJson n)
  | precision p s =>
    change Limit.precisionOfJson? (.ofMembers [("precision",numberJson p),("scale",s.elim .null numberJson)]) = _
    rw [Limit.precisionOfJson?,Json.fields?_ofMembers (by simp)]
    simp [Json.lookup_skip,Json.orNull,Json.word32?_numberJson,Json.optionalWord32?_numberJson]

theorem Privilege.ofJson?_toJson (p : Privilege) : Privilege.ofJson? p.toJson = some p := by
  cases p with
  | onTable r => cases r <;> decide
  | onColumns r cs =>
    have known : ColumnRight.ofWord? r.word = some r := by cases r <;> decide
    rw [Privilege.ofJson?,Privilege.toJson,Json.fields?_ofMembers (by simp)]
    simp [Json.lookup_skip,Privilege.kind?,Privilege.ofKind?,Value.ofMembers,Value.word?,Value.string,known,
      Json.strings?_strings]

theorem ForeignKey.ofJson?_toJson (k : ForeignKey) : ForeignKey.ofJson? k.toJson = some k := by
  rw [ForeignKey.ofJson?,ForeignKey.toJson,Json.fields?_ofMembers (by simp)]
  simp [Json.lookup_skip,Json.orNull,Json.optionalString?_optionalString,Json.strings?_strings,Value.string,Value.string?,
    ForeignKeyAction.optionalOfJson?_toJson]

theorem Adapter.ofJson?_toJson (a : Adapter) : Adapter.ofJson? a.toJson = some a := by
  rw [Adapter.ofJson?,Adapter.toJson,Json.fields?_ofMembers (by simp)]
  simp [Json.lookup_skip,Json.orNull,Json.optionalString?_optionalString,Value.bool?,Dialect.ofJson?_toJson]

theorem CharacterSet.wellFormed_toJson (c : CharacterSet) : c.toJson.WellFormed := by
  cases c <;> simp [CharacterSet.toJson]

theorem Limit.wellFormed_toJson (l : Limit) : l.toJson.WellFormed := by
  cases l with
  | length n => simp [Limit.toJson]
  | precision p s => simp [Limit.toJson,Json.wellFormed_elim Json.wellFormed_number s]

theorem Privilege.wellFormed_toJson (p : Privilege) : p.toJson.WellFormed := by
  cases p <;> simp [Privilege.toJson]

theorem ForeignKey.wellFormed_toJson (k : ForeignKey) : k.toJson.WellFormed := by
  have action : ∀ a : ForeignKeyAction, a.toJson.WellFormed := fun a => Json.wellFormed_string a.word
  simp [ForeignKey.toJson,Json.wellFormed_elim action]

theorem Adapter.wellFormed_toJson (a : Adapter) : a.toJson.WellFormed := by
  simp [Adapter.toJson,Dialect.toJson]

/-- Settings are refused for their default schema only. -/
theorem Settings.validate_error {s : Settings} {fault : DdlError} (refused : s.validate = .error fault) :
    fault = .invalidConfiguration .emptyDefaultSchema := by
  unfold Settings.validate at refused
  split at refused
  · cases refused
    rfl
  · cases refused

/-- A configuration is read back as far as its settings make sense. -/
theorem Adapter.ofText_write (a : Adapter) : Adapter.ofText a.toJson.write = a.validated := by
  simp [Adapter.ofText,Json.readsBack Adapter.wellFormed_toJson Adapter.ofJson?_toJson a]

/-- What a request is made of is read back from its text. A configuration is read
    back if and only if its settings make sense, and refused as one that does not
    make sense if not. -/
theorem documents_read_back :
    Json.ReadsBack Dialect.toJson Dialect.ofJson? ∧
    Json.ReadsBack ColumnType.toJson ColumnType.ofJson? ∧
    Json.ReadsBack ForeignKeyAction.toJson ForeignKeyAction.ofJson? ∧
    Json.ReadsBack CharacterSet.toJson CharacterSet.ofJson? ∧
    Json.ReadsBack Limit.toJson Limit.ofJson? ∧
    Json.ReadsBack Privilege.toJson Privilege.ofJson? ∧
    Json.ReadsBack ForeignKey.toJson ForeignKey.ofJson? ∧
    ∀ a : Adapter, (Adapter.ofText a.toJson.write = .ok a ↔ a.settings.validate = .ok ()) ∧
      (a.settings.validate ≠ .ok () →
        Adapter.ofText a.toJson.write = .error (.invalidConfiguration .emptyDefaultSchema)) := by
  refine ⟨Json.readsBack (fun d => Json.wellFormed_string d.word) Dialect.ofJson?_toJson,
    Json.readsBack (fun t => Json.wellFormed_string t.word) ColumnType.ofJson?_toJson,
    Json.readsBack (fun a => Json.wellFormed_string a.word) ForeignKeyAction.ofJson?_toJson,
    Json.readsBack CharacterSet.wellFormed_toJson CharacterSet.ofJson?_toJson,
    Json.readsBack Limit.wellFormed_toJson Limit.ofJson?_toJson,
    Json.readsBack Privilege.wellFormed_toJson Privilege.ofJson?_toJson,
    Json.readsBack ForeignKey.wellFormed_toJson ForeignKey.ofJson?_toJson,?_⟩
  intro a
  rw [Adapter.ofText_write,Adapter.validated]
  cases sensible : a.settings.validate with
  | ok => exact ⟨⟨fun _ => rfl,fun _ => rfl⟩,fun refused => absurd rfl refused⟩
  | error fault =>
    cases Settings.validate_error sensible
    exact ⟨⟨nofun,nofun⟩,fun _ => rfl⟩

/-- What is special in a name is escaped. -/
example : (CharacterSet.named "a\"\n\x1f").toJson.write = "\x7b\"Named\":\"a\\\"\\n\\u001f\"\x7d" := by decide +kernel

end PortableDdl
