import PortableDdl.Proofs.ResolvedColumn

/-!
# Limits in the text of a type

Behind the name of a type the numbers of its limit are read back, whatever suffix
follows them. A length and a precision without a scale have the same text, but a
type takes limits of one kind only, so that its text tells them apart.
-/

namespace PortableDdl

namespace Text

/-- The number that a text begins with, and what stands behind its digits. -/
def leadingNumber (cs : List Char) : Nat × List Char :=
  (Nat.ofDigitChars 10 (cs.takeWhile Char.isDigit) 0,cs.dropWhile Char.isDigit)

/-- A number ends where something else than a digit follows. -/
theorem leadingNumber_decimal (n : UInt32) {c : Char} (other : c.isDigit = false) (rest : List Char) :
    leadingNumber ((decimal n).toList ++ c :: rest) = (n.toNat,c :: rest) := by
  have digits : ∀ d ∈ Nat.toDigits 10 n.toNat, d.isDigit = true := by
    intro d member
    exact Nat.isDigit_of_mem_toDigits (by decide) (by decide) member
  have ends : ¬ c.isDigit = true := by simp [other]
  rw [leadingNumber,decimal,Nat.toList_repr,List.takeWhile_append_of_pos digits,List.dropWhile_append_of_pos digits,
    List.takeWhile_cons_of_neg ends,List.dropWhile_cons_of_neg ends,List.append_nil,Nat.ofDigitChars_ten_toDigits]

end Text

namespace Limit

/-- The numbers of a limit, from left to right. -/
def numbers (l : Limit) : List Nat := l.size.toNat :: (l.scale?.map UInt32.toNat).toList

theorem sql_eq (l : Limit) : l.sql = "(" ++ ", ".intercalate (l.numbers.map Nat.repr) ++ ")" := by
  match l with
  | .length n => rfl
  | .precision p none => rfl
  | .precision p (some s) =>
    simp [sql,numbers,size,scale?,Text.decimal,String.intercalate_cons_cons,String.append_assoc]

theorem numbers_lt (l : Limit) : ∀ n ∈ l.numbers, n < UInt32.size := by
  intro n member
  rcases List.mem_cons.mp member with rfl | member
  · exact l.size.toNat_lt
  · obtain ⟨s,_,rfl⟩ := Option.map_eq_some_iff.mp (Option.mem_toList.mp member)
    exact s.toNat_lt

/-- The numbers of the limit that a text begins with, if it begins with one. -/
def readNumbers? : List Char → Option (List Nat)
  | '(' :: cs =>
    match Text.leadingNumber cs with
    | (p,')' :: _) => some [p]
    | (p,',' :: ' ' :: more) => some [p,(Text.leadingNumber more).1]
    | _ => none
  | _ => none

variable {l m : Limit}

theorem readNumbers?_sql (l : Limit) (rest : List Char) : readNumbers? (l.sql.toList ++ rest) = some l.numbers := by
  have last (n : UInt32) := Text.leadingNumber_decimal n (c := ')') (by decide) rest
  have alone (n : UInt32) : readNumbers? (("(" ++ Text.decimal n ++ ")").toList ++ rest) = some [n.toNat] := by
    simp [readNumbers?,last]
  match l with
  | .length n => exact alone n
  | .precision p none => exact alone p
  | .precision p (some s) =>
    have first := Text.leadingNumber_decimal p (c := ',') (by decide) (' ' :: ((Text.decimal s).toList ++ ')' :: rest))
    simp [sql,readNumbers?,numbers,size,scale?,first,last]

/-- The text of a limit says its numbers and nothing else. -/
theorem sql_eq_iff : l.sql = m.sql ↔ l.numbers = m.numbers := by
  constructor
  · intro same
    have read := readNumbers?_sql l []
    rw [same,readNumbers?_sql] at read
    exact (Option.some.inj read).symm
  · intro same
    rw [sql_eq,sql_eq,same]

/-- Only the kind of a limit is not among its numbers. -/
theorem numbers_eq_iff : l.numbers = m.numbers ↔
    l = m ∨ ∃ n, l = .length n ∧ m = .precision n none ∨ l = .precision n none ∧ m = .length n := by
  constructor
  · intro same
    obtain ⟨firstSame,restSame⟩ := List.cons.inj same
    have size : l.size = m.size := UInt32.toNat_inj.mp firstSame
    have scale : l.scale? = m.scale? := by
      have written : l.scale?.map UInt32.toNat = m.scale?.map UInt32.toNat := by
        simpa using congrArg List.head? restSame
      exact Option.map_injective (fun _ _ => UInt32.toNat_inj.mp) written
    cases l with
    | length n =>
      cases m with
      | length k => exact .inl (congrArg Limit.length size)
      | precision p s =>
        obtain rfl : n = p := size
        obtain rfl : none = s := scale
        exact .inr ⟨n,.inl ⟨rfl,rfl⟩⟩
    | precision p s =>
      cases m with
      | length n =>
        obtain rfl : p = n := size
        obtain rfl : s = none := scale
        exact .inr ⟨p,.inr ⟨rfl,rfl⟩⟩
      | precision q r =>
        obtain rfl : p = q := size
        obtain rfl : s = r := scale
        exact .inl rfl
  · rintro (rfl | ⟨n,⟨rfl,rfl⟩ | ⟨rfl,rfl⟩⟩) <;> rfl

theorem eq_of_numbers (kind : l.kind = m.kind) (numbers : l.numbers = m.numbers) : l = m := by
  rcases numbers_eq_iff.mp numbers with same | ⟨n,⟨rfl,rfl⟩ | ⟨rfl,rfl⟩⟩
  · exact same
  · cases kind
  · cases kind

end Limit

namespace ColumnDefinition

variable {d e : ColumnDefinition} {l : Limit} {t : String}

theorem eq_of_withLimit (taken : d.withLimit l = .ok e) : e = { d with limit := some l } := by
  have made : d.change (.limit l) = .ok e := taken
  exact (change_ok_iff.mp made).2

theorem kind_of_withLimit (taken : d.withLimit l = .ok e) : l.kind = d.capabilities.limitKind :=
  (withLimit_ok_iff.mp ⟨e,taken⟩).kind

/-- What stands behind the name of the type begins with the numbers of the limit,
    or with none if there is no limit. -/
theorem limit_of_typeText (written : d.typeText = .ok t) :
    ∃ behind, t = d.baseType ++ behind ∧ Limit.readNumbers? behind.toList = d.limit.map Limit.numbers := by
  rw [typeText] at written
  split at written
  · cases written
  · obtain rfl := Except.ok.inj written
    refine ⟨_,String.append_assoc,?_⟩
    cases d.limit with
    | some l =>
      rw [Option.elim_some,String.toList_append]
      exact Limit.readNumbers?_sql l _
    | none =>
      -- A suffix begins with a space, so that no limit is read from it.
      cases d.suffix with
      | none => rfl
      | some s => simp [Limit.readNumbers?]

theorem limit_of_same_typeText (first : d.typeText = .ok t) (second : e.typeText = .ok t)
    (type : d.baseType = e.baseType) : d.limit.map Limit.numbers = e.limit.map Limit.numbers := by
  obtain ⟨behind,text,read⟩ := limit_of_typeText first
  obtain ⟨again,sameText,readAgain⟩ := limit_of_typeText second
  have same : behind = again := by
    rw [text,type] at sameText
    exact (String.append_right_inj _).mp sameText
  rw [← read,← readAgain,same]

/-- A definition has a text with every limit that it takes, and texts with two
    limits are the same only if the limits are. Where it has one without a limit as
    well, that is another text. Without regard to a type, two different limits have
    the same text exactly if one is a length, the other a precision without a scale,
    and the number is the same. -/
theorem limit_told_by_type_text (d : ColumnDefinition) (l m : Limit) :
    (∀ e f, d.withLimit l = .ok e → d.withLimit m = .ok f →
      ∃ s t, e.typeText = .ok s ∧ f.typeText = .ok t ∧ (s = t ↔ l = m) ∧
        (d.limit = none → d.capabilities.limit ≠ .required → ∃ u, d.typeText = .ok u ∧ s ≠ u ∧ t ≠ u)) ∧
    (l ≠ m ∧ l.sql = m.sql ↔
      ∃ n, l = .length n ∧ m = .precision n none ∨ l = .precision n none ∧ m = .length n) := by
  refine ⟨?_,?_⟩
  · intro e f first second
    have kind : l.kind = m.kind := (kind_of_withLimit first).trans (kind_of_withLimit second).symm
    obtain rfl := eq_of_withLimit first
    obtain rfl := eq_of_withLimit second
    obtain ⟨s,sText⟩ : ∃ s, { d with limit := some l }.typeText = .ok s := typeText_ok_iff.mpr (by simp)
    obtain ⟨t,tText⟩ : ∃ t, { d with limit := some m }.typeText = .ok t := typeText_ok_iff.mpr (by simp)
    refine ⟨s,t,sText,tText,?_,?_⟩
    · constructor
      · rintro rfl
        have numbers := limit_of_same_typeText sText tText rfl
        exact Limit.eq_of_numbers kind (Option.some.inj numbers)
      · rintro rfl
        exact Except.ok.inj (sText.symm.trans tText)
    · intro unlimited optional
      obtain ⟨u,uText⟩ := typeText_ok_iff.mpr fun missing => optional missing.1
      have differs : ∀ {x : Limit} {w : String}, { d with limit := some x }.typeText = .ok w → w ≠ u := by
        rintro x w limited rfl
        have numbers := limit_of_same_typeText limited uText rfl
        simp [unlimited] at numbers
      exact ⟨u,uText,differs sText,differs tText⟩
  · rw [Limit.sql_eq_iff,Limit.numbers_eq_iff]
    constructor
    · rintro ⟨differ,same | collision⟩
      · exact absurd same differ
      · exact collision
    · rintro ⟨n,⟨rfl,rfl⟩ | ⟨rfl,rfl⟩⟩
      · exact ⟨nofun,.inr ⟨n,.inl ⟨rfl,rfl⟩⟩⟩
      · exact ⟨nofun,.inr ⟨n,.inr ⟨rfl,rfl⟩⟩⟩

/-- The same digits make two limits, and a suffix may look like a third one. -/
theorem limit_told_by_type_text_of_same_digits :
    let number : ColumnDefinition :=
      { ofType "NUMBER" (Capabilities.scalar.withPrecision .optional) with suffix := some "(111)" }
    let whole : ColumnDefinition := { number with limit := some (.precision 111 none) }
    let scaled : ColumnDefinition := { number with limit := some (.precision 11 (some 1)) }
    number.withLimit (.precision 111 none) = .ok whole ∧ number.withLimit (.precision 11 (some 1)) = .ok scaled ∧
      (∃ s t u, whole.typeText = .ok s ∧ scaled.typeText = .ok t ∧ number.typeText = .ok u ∧ s ≠ t ∧ s ≠ u ∧ t ≠ u) ∧
      (Limit.length 111).sql = (Limit.precision 111 none).sql := by
  intro number whole scaled
  have takesWhole : number.withLimit (.precision 111 none) = .ok whole := by decide
  have takesScaled : number.withLimit (.precision 11 (some 1)) = .ok scaled := by decide
  obtain ⟨s,t,sText,tText,same,unlimited⟩ := (limit_told_by_type_text number _ _).1 whole scaled takesWhole takesScaled
  obtain ⟨u,uText,sOther,tOther⟩ := unlimited rfl (by decide)
  have different : s ≠ t := same.not.mpr (by decide)
  have collision := (limit_told_by_type_text number (.length 111) (.precision 111 none)).2.mpr ⟨111,.inl ⟨rfl,rfl⟩⟩
  exact ⟨takesWhole,takesScaled,⟨s,t,u,sText,tText,uText,different,sOther,tOther⟩,collision.2⟩

end ColumnDefinition

end PortableDdl
