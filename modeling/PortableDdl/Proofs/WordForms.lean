import Mathlib.Data.List.DropRight
import Mathlib.Data.List.Forall2
import PortableDdl.Words

/-!
# How words may be written

White space may stand around a word, and its ASCII letters may be in either
case. Trimming leaves the one part of a text that has white space around it and
none at its ends, and two words in lower case are equal if and only if they are
the same but for the case of their letters.
-/

namespace PortableDdl

namespace Text

def Blank (cs : List Char) : Prop := ∀ c ∈ cs, isBlank c = true

instance (cs : List Char) : Decidable (Blank cs) := decidable_of_iff (cs.all isBlank = true) List.all_eq_true

/-- Whether white space stands neither at the beginning nor at the end. -/
structure Bare (cs : List Char) : Prop where
  begins : ∀ c ∈ cs.head?, isBlank c = false
  ends : ∀ c ∈ cs.getLast?, isBlank c = false

/-- Whether a text is a part of it with white space around. -/
def Around (core cs : List Char) : Prop := ∃ before after, cs = before ++ core ++ after ∧ Blank before ∧ Blank after

theorem bare_iff {cs : List Char} :
    Bare cs ↔ (∀ c ∈ cs.head?, isBlank c = false) ∧ ∀ c ∈ cs.getLast?, isBlank c = false :=
  ⟨fun bare => ⟨bare.begins,bare.ends⟩,fun ends => ⟨ends.1,ends.2⟩⟩

-- Not by the quantifiers, which could be taken for those over all characters.
instance (cs : List Char) : Decidable (Bare cs) :=
  decidable_of_iff (cs.head?.all (!isBlank ·) = true ∧ cs.getLast?.all (!isBlank ·) = true) (by simp [bare_iff,Option.all_eq_true])

theorem dropWhile_blank {before cs : List Char} (blank : Blank before) (begins : ∀ c ∈ cs.head?, isBlank c = false) :
    (before ++ cs).dropWhile isBlank = cs := by
  rw [List.dropWhile_append_of_pos blank]
  cases cs with
  | nil => rfl
  | cons c cs => exact List.dropWhile_cons_of_neg (by simp [begins c rfl])

theorem head?_dropWhile_blank (cs : List Char) : ∀ c ∈ (cs.dropWhile isBlank).head?, isBlank c = false := by
  intro c first
  have outside := List.head?_dropWhile_not isBlank cs
  rw [Option.mem_def.mp first] at outside
  exact outside

theorem trimChars_eq_rdropWhile (cs : List Char) : trimChars cs = (cs.dropWhile isBlank).rdropWhile isBlank := rfl

theorem trimChars_of_around {core cs : List Char} (around : Around core cs) (bare : Bare core) : trimChars cs = core := by
  obtain ⟨before,after,rfl,blank,blankAfter⟩ := around
  rw [trimChars,List.append_assoc]
  by_cases empty : core = []
  · subst empty
    have nothing : (before ++ ([] ++ after)).dropWhile isBlank = [] := by
      rw [List.dropWhile_append_of_pos blank]
      exact List.dropWhile_eq_nil_iff.mpr blankAfter
    rw [nothing]
    rfl
  · have left : (before ++ (core ++ after)).dropWhile isBlank = core ++ after := by
      refine dropWhile_blank blank ?_
      rw [List.head?_append_of_ne_nil core empty]
      exact bare.begins
    have right : (after.reverse ++ core.reverse).dropWhile isBlank = core.reverse := by
      refine dropWhile_blank (fun c member => blankAfter c (List.mem_reverse.mp member)) ?_
      rw [List.head?_reverse]
      exact bare.ends
    rw [left,List.reverse_append,right,List.reverse_reverse]

theorem around_trimChars (cs : List Char) : Around (trimChars cs) cs := by
  refine ⟨cs.takeWhile isBlank,(cs.dropWhile isBlank).rtakeWhile isBlank,?_,?_,?_⟩
  · rw [trimChars_eq_rdropWhile,List.append_assoc,List.rdropWhile_append_rtakeWhile,List.takeWhile_append_dropWhile]
  · intro c member
    exact List.mem_takeWhile_imp member
  · intro c member
    exact List.mem_rtakeWhile_imp member

theorem bare_trimChars (cs : List Char) : Bare (trimChars cs) where
  begins := by
    -- What is cut off at the end leaves the first character, if anything is left.
    intro c first
    obtain ⟨rest,joined⟩ := List.rdropWhile_prefix isBlank (cs.dropWhile isBlank)
    refine head?_dropWhile_blank cs c ?_
    rw [← joined,List.head?_append,← trimChars_eq_rdropWhile,Option.mem_def.mp first]
    rfl
  ends := by
    rw [trimChars,List.getLast?_reverse]
    exact head?_dropWhile_blank _

theorem trimChars_eq_iff {core cs : List Char} : trimChars cs = core ↔ Around core cs ∧ Bare core := by
  constructor
  · rintro rfl
    exact ⟨around_trimChars cs,bare_trimChars cs⟩
  · rintro ⟨around,bare⟩
    exact trimChars_of_around around bare

theorem trimChars_eq_nil_iff {cs : List Char} : trimChars cs = [] ↔ Blank cs := by
  rw [trimChars_eq_iff]
  constructor
  · rintro ⟨⟨before,after,rfl,blank,blankAfter⟩,_⟩
    intro c member
    rcases List.mem_append.mp member with member | member
    · exact blank c (by simpa using member)
    · exact blankAfter c member
  · intro blank
    exact ⟨⟨[],cs,rfl,nofun,blank⟩,nofun,nofun⟩

theorem cutFirst?_eq_none_iff {sep : Char} {cs : List Char} : cutFirst? sep cs = none ↔ sep ∉ cs := by
  induction cs with
  | nil => simp [cutFirst?]
  | cons c cs ih =>
    by_cases same : c = sep
    · simp [cutFirst?,same]
    · simp [cutFirst?,same,ih,Ne.symm same]

theorem cutFirst?_of_append {sep : Char} {before behind : List Char} (first : sep ∉ before) :
    cutFirst? sep (before ++ sep :: behind) = some (before,behind) := by
  induction before with
  | nil => simp [cutFirst?]
  | cons c before ih =>
    obtain ⟨other,later⟩ := List.ne_and_not_mem_of_not_mem_cons first
    simp [cutFirst?,Ne.symm other,ih later]

theorem cutFirst?_eq_some_iff {sep : Char} {cs before behind : List Char} :
    cutFirst? sep cs = some (before,behind) ↔ cs = before ++ sep :: behind ∧ sep ∉ before := by
  constructor
  · intro cut
    induction cs generalizing before with
    | nil => simp [cutFirst?] at cut
    | cons c cs ih =>
      by_cases same : c = sep
      · simp only [cutFirst?,same,if_true,Option.some.injEq,Prod.mk.injEq] at cut
        obtain ⟨rfl,rfl⟩ := cut
        exact ⟨by rw [same]; rfl,List.not_mem_nil⟩
      · simp only [cutFirst?,same,if_false,Option.map_eq_some_iff,Prod.mk.injEq] at cut
        obtain ⟨⟨start,rest⟩,later,rfl,rfl⟩ := cut
        obtain ⟨rfl,outside⟩ := ih later
        exact ⟨rfl,List.not_mem_cons_of_ne_of_not_mem (Ne.symm same) outside⟩
  · rintro ⟨rfl,first⟩
    exact cutFirst?_of_append first

theorem cutLast?_eq_none_iff {sep : Char} {cs : List Char} : cutLast? sep cs = none ↔ sep ∉ cs := by
  induction cs with
  | nil => simp [cutLast?]
  | cons c cs ih =>
    rw [cutLast?]
    cases later : cutLast? sep cs with
    | some p =>
      have member : sep ∈ cs := by
        by_contra absent
        exact Option.some_ne_none p (later.symm.trans (ih.mpr absent))
      simp [member]
    | none =>
      have absent := ih.mp later
      by_cases same : c = sep
      · simp [same]
      · simp [same,absent,Ne.symm same]

theorem cutLast?_of_append {sep : Char} {before behind : List Char} (last : sep ∉ behind) :
    cutLast? sep (before ++ sep :: behind) = some (before,behind) := by
  induction before with
  | nil => simp [cutLast?,cutLast?_eq_none_iff.mpr last]
  | cons c before ih => simp [cutLast?,ih]

theorem cutLast?_eq_some_iff {sep : Char} {cs before behind : List Char} :
    cutLast? sep cs = some (before,behind) ↔ cs = before ++ sep :: behind ∧ sep ∉ behind := by
  constructor
  · intro cut
    induction cs generalizing before with
    | nil => cases cut
    | cons c cs ih =>
      rw [cutLast?] at cut
      cases later : cutLast? sep cs with
      | some p =>
        obtain ⟨start,rest⟩ := p
        rw [later] at cut
        obtain ⟨rfl,rfl⟩ := Prod.mk.inj (Option.some.inj cut)
        obtain ⟨rfl,outside⟩ := ih later
        exact ⟨rfl,outside⟩
      | none =>
        rw [later] at cut
        by_cases same : c = sep
        · simp only [same,if_true,Option.some.injEq,Prod.mk.injEq] at cut
          obtain ⟨rfl,rfl⟩ := cut
          exact ⟨by rw [same]; rfl,cutLast?_eq_none_iff.mp later⟩
        · simp [same] at cut
  · rintro ⟨rfl,last⟩
    exact cutLast?_of_append last

end Text

/-- The letters of ASCII, each in lower and in upper case. -/
def letterCases : List (Char × Char) :=
  "abcdefghijklmnopqrstuvwxyz".toList.zip "ABCDEFGHIJKLMNOPQRSTUVWXYZ".toList

/-- Whether two characters are the same but for the case of an ASCII letter. -/
def SameLetter (c d : Char) : Prop := c = d ∨ (c,d) ∈ letterCases ∨ (d,c) ∈ letterCases

/-- Whether two words are the same but for the case of ASCII letters. -/
def AnyCase (word cs : List Char) : Prop := List.Forall₂ SameLetter word cs

theorem isAlphanum_iff (c : Char) :
    c.isAlphanum = true ↔ ('a' ≤ c ∧ c ≤ 'z') ∨ ('A' ≤ c ∧ c ≤ 'Z') ∨ ('0' ≤ c ∧ c ≤ '9') := by
  have split : c.isAlphanum = (c.isUpper || c.isLower || c.isDigit) := rfl
  have upper : c.isUpper = decide ('A' ≤ c ∧ c ≤ 'Z') := rfl
  have lower : c.isLower = (decide ('a' ≤ c) && decide (c ≤ 'z')) := rfl
  have digit : c.isDigit = (decide ('0' ≤ c) && decide (c ≤ '9')) := rfl
  rw [split,upper,lower,digit]
  simp only [Bool.or_eq_true,Bool.and_eq_true,decide_eq_true_eq]
  tauto

theorem upper_letterCases : ∀ n < 26, ((Char.ofNat (65 + n)).toLower,Char.ofNat (65 + n)) ∈ letterCases := by decide

theorem toLower_letterCases : ∀ p ∈ letterCases, p.1.toLower = p.1 ∧ p.2.toLower = p.1 := by decide

theorem isBlank_letterCases : ∀ p ∈ letterCases, Text.isBlank p.1 = false ∧ Text.isBlank p.2 = false := by decide

theorem letterCases_unique : ∀ p ∈ letterCases, ∀ q ∈ letterCases, p.1 = q.1 → p.2 = q.2 := by decide

/-- Characters other than upper-case letters are left as they are. -/
theorem toLower_or (c : Char) : c.toLower = c ∨ (c.toLower,c) ∈ letterCases := by
  by_cases upper : 65 ≤ c.toNat ∧ c.toNat ≤ 90
  · have listed := upper_letterCases (c.toNat - 65) (by omega)
    rw [Nat.add_sub_cancel' upper.1,Char.ofNat_toNat] at listed
    exact .inr listed
  · refine .inl (dif_neg fun inside => upper ?_)
    simpa [UInt32.le_iff_toNat_le,← Char.toNat_val] using inside

theorem toLower_eq_iff {c d : Char} : c.toLower = d.toLower ↔ SameLetter c d := by
  constructor
  · intro same
    rcases toLower_or c with left | left <;> rcases toLower_or d with right | right
    · exact .inl (left.symm.trans (same.trans right))
    · rw [← same,left] at right
      exact .inr (.inl right)
    · rw [same,right] at left
      exact .inr (.inr left)
    · exact .inl (letterCases_unique _ left _ right same)
  · rintro (rfl | listed | listed)
    · rfl
    · obtain ⟨lower,upper⟩ := toLower_letterCases _ listed
      exact lower.trans upper.symm
    · obtain ⟨lower,upper⟩ := toLower_letterCases _ listed
      exact upper.trans lower.symm

theorem map_toLower_eq_iff {word cs : List Char} : word.map Char.toLower = cs.map Char.toLower ↔ AnyCase word cs := by
  induction word generalizing cs with
  | nil => cases cs <;> simp [AnyCase]
  | cons c word ih =>
    cases cs with
    | nil => simp [AnyCase]
    | cons d cs => simpa [AnyCase,toLower_eq_iff] using fun _ => ih

theorem toList_asciiLower (s : String) : (asciiLower s).toList = s.toList.map Char.toLower := by
  simp [asciiLower]

/-- A text in lower case is a word if and only if its letters are those of the
    word. -/
theorem asciiLower_eq_iff {s w : String} (lower : w.toList.map Char.toLower = w.toList) :
    asciiLower s = w ↔ AnyCase w.toList s.toList := by
  rw [← map_toLower_eq_iff,lower,← toList_asciiLower,String.toList_inj]
  exact eq_comm

theorem isBlank_toLower (c : Char) : Text.isBlank c.toLower = Text.isBlank c := by
  rcases toLower_or c with same | listed
  · rw [same]
  · obtain ⟨lower,upper⟩ := isBlank_letterCases _ listed
    rw [lower,upper]

theorem bare_map_toLower {cs : List Char} : Text.Bare (cs.map Char.toLower) ↔ Text.Bare cs := by
  simp [Text.bare_iff,isBlank_toLower]

end PortableDdl
