import PortableDdl.Proofs.WordForms

/-!
# Character sets as texts

Any text but white space asks for a character set. The white space around it is
lost, and so is the case of the word for Unicode, so that not every character set
is read back from its own text: those are that some text asks for.
-/

namespace PortableDdl

theorem Text.trim_eq_iff {s core : String} :
    Text.trim s = core ↔ Text.Around core.toList s.toList ∧ Text.Bare core.toList := by
  rw [← Text.trimChars_eq_iff,← String.toList_inj,Text.trim,String.toList_ofList]

theorem Text.trim_eq_empty_iff {s : String} : Text.trim s = "" ↔ Text.Blank s.toList := by
  rw [← Text.trimChars_eq_nil_iff,← String.toList_inj,Text.trim,String.toList_ofList]
  rfl

namespace CharacterSet

/-- Whether a text is the word for Unicode, whatever the case of its letters. -/
def SaysUnicode (text : String) : Prop := AnyCase "unicode".toList text.toList

/-- Whether a name is read as it stands: it is no blank, has no white space at its
    ends and is not the word for Unicode. -/
structure ProperName (name : String) : Prop where
  nonempty : name ≠ ""
  bare : Text.Bare name.toList
  notUnicode : ¬SaysUnicode name

/-- Whether a text stands for a character set in itself, with nothing around it. -/
inductive Worded : String → CharacterSet → Prop
  | unicode {text : String} : SaysUnicode text → Worded text .unicode
  | named {text : String} : ¬SaysUnicode text → Worded text (.named text)

variable {s name : String} {c : CharacterSet} {e : DdlError}

theorem asciiLower_eq_unicode_iff {text : String} : asciiLower text = "unicode" ↔ SaysUnicode text :=
  asciiLower_eq_iff (by decide)

theorem parse_error_iff :
    parse s = .error e ↔ Text.Blank s.toList ∧ e = .invalidConfiguration .emptyCharacterSet := by
  rw [← Text.trim_eq_empty_iff,parse]
  by_cases empty : Text.trim s = ""
  · simp [empty,eq_comm]
  · by_cases unicode : asciiLower (Text.trim s) = "unicode"
    · simp [empty,unicode]
    · simp [empty,unicode]

/-- A text is read by the one part of it that has white space around it and none
    at its ends. -/
theorem parse_ok_iff :
    parse s = .ok c ↔ ∃ core, Text.Around core.toList s.toList ∧ Text.Bare core.toList ∧ core ≠ "" ∧ Worded core c := by
  have trimmed : parse s = .ok c ↔ Text.trim s ≠ "" ∧ Worded (Text.trim s) c := by
    rw [parse]
    by_cases empty : Text.trim s = ""
    · simp [empty]
    · by_cases unicode : asciiLower (Text.trim s) = "unicode"
      · rw [if_neg empty,if_pos unicode]
        constructor
        · rintro ⟨⟩
          exact ⟨empty,.unicode (asciiLower_eq_unicode_iff.mp unicode)⟩
        · rintro ⟨_,_ | other⟩
          · rfl
          · exact absurd (asciiLower_eq_unicode_iff.mp unicode) other
      · rw [if_neg empty,if_neg unicode]
        constructor
        · rintro ⟨⟩
          exact ⟨empty,.named (asciiLower_eq_unicode_iff.not.mp unicode)⟩
        · rintro ⟨_,word | _⟩
          · exact absurd (asciiLower_eq_unicode_iff.mpr word) unicode
          · rfl
  rw [trimmed]
  constructor
  · rintro ⟨nonempty,worded⟩
    obtain ⟨around,bare⟩ := Text.trim_eq_iff.mp rfl
    exact ⟨_,around,bare,nonempty,worded⟩
  · rintro ⟨core,around,bare,nonempty,worded⟩
    rw [Text.trim_eq_iff.mpr ⟨around,bare⟩]
    exact ⟨nonempty,worded⟩

/-- Whether a character set can be told from its text. -/
inductive Proper : CharacterSet → Prop
  | unicode : Proper .unicode
  | named {name : String} : ProperName name → Proper (.named name)

/-- What a text asks for is never lost again. -/
theorem proper_of_parse (read : parse s = .ok c) : c.Proper := by
  obtain ⟨core,_,bare,nonempty,worded⟩ := parse_ok_iff.mp read
  cases worded with
  | unicode _ => exact .unicode
  | named other => exact .named ⟨nonempty,bare,other⟩

theorem around_self (cs : List Char) : Text.Around cs cs := ⟨[],[],by simp,nofun,nofun⟩

theorem parse_display_of_proper (proper : c.Proper) : parse c.display = .ok c := by
  cases proper with
  | unicode =>
    have word : SaysUnicode "Unicode" := asciiLower_eq_unicode_iff.mp (by decide +kernel)
    exact parse_ok_iff.mpr ⟨"Unicode",around_self _,by decide,by decide,.unicode word⟩
  | named proper => exact parse_ok_iff.mpr ⟨_,around_self _,proper.bare,proper.nonempty,.named proper.notUnicode⟩

theorem proper_iff : c.Proper ↔ c = .unicode ∨ ∃ name, c = .named name ∧ ProperName name := by
  constructor
  · rintro (_ | proper)
    · exact .inl rfl
    · exact .inr ⟨_,rfl,proper⟩
  · rintro (rfl | ⟨name,rfl,proper⟩)
    · exact .unicode
    · exact .named proper

/-- A character set that a text asks for is read back from its own text, and only
    a text that is all white space asks for none. Of all character sets those are
    read back that are Unicode or have a name with something in it, without white
    space at its ends and other than the word for Unicode. -/
theorem text_of_character_set :
    (∀ s c, parse s = .ok c → parse c.display = .ok c) ∧
    (∀ s e, parse s = .error e ↔ Text.Blank s.toList ∧ e = .invalidConfiguration .emptyCharacterSet) ∧
    ∀ c, parse c.display = .ok c ↔ c = .unicode ∨ ∃ name, c = .named name ∧ ProperName name := by
  refine ⟨?_,?_,?_⟩
  · intro s c read
    exact parse_display_of_proper (proper_of_parse read)
  · intro s e
    exact parse_error_iff
  · intro c
    rw [← proper_iff]
    exact ⟨proper_of_parse,parse_display_of_proper⟩

/-- The ideographic space counts as white space, a letter with a dot is not one of
    the word for Unicode. -/
theorem text_of_character_set_of_dotted :
    parse "\u3000UNİCODE\t" = .ok (.named "UNİCODE") ∧ parse (named "UNİCODE").display = .ok (.named "UNİCODE") := by
  have read : parse "\u3000UNİCODE\t" = .ok (.named "UNİCODE") := by decide +kernel
  have again := text_of_character_set.1 _ _ read
  exact ⟨read,again⟩

end CharacterSet

end PortableDdl
