import PortableDdl.Proofs.WordForms

/-!
# How privileges may be written

A privilege is written as one of its names, alone or in front of a list of
columns in parentheses. Whatever is written so is read as that privilege, and
nothing else is read as any. In particular the keyword of a privilege and its
columns are read back, unless a column could not stand in a list.
-/

namespace PortableDdl

open Text

namespace Privilege

/-- The names of a privilege, of which one stands before its columns. -/
def names : Privilege → List String
  | .onTable .all => ["all","all privileges"]
  | .onTable r => [r.word]
  | .onColumns r _ => [r.word]

/-- Whether characters are a name of a privilege, whatever the case of the letters. -/
def HasName (p : Privilege) (cs : List Char) : Prop := ∃ n ∈ p.names, AnyCase n.toList cs

/-- The columns of the entries of a list. White space alone is no column, and
    around a column it is no part of it. -/
inductive Entries : List (List Char) → List String → Prop
  | nil : Entries [] []
  | blank {e : List Char} {es : List (List Char)} {cs : List String} : Blank e → Entries es cs → Entries (e :: es) cs
  | column {e : List Char} {es : List (List Char)} {c : String} {cs : List String} : c ≠ "" → Bare c.toList →
      Around c.toList e → Entries es cs → Entries (e :: es) (c :: cs)

/-- How a privilege may be written, up to white space around it. Since only
    some privileges have columns, the entries behind the name of any other are
    all blank. -/
inductive Written (p : Privilege) : List Char → Prop
  | alone {name : List Char} : p.HasName name → p.columns = [] → Written p name
  | listed {name gap : List Char} {entries : List (List Char)} : p.HasName name → Blank gap → entries ≠ [] →
      (∀ e ∈ entries, ',' ∉ e) → Entries entries p.columns →
      Written p (name ++ gap ++ '(' :: ([','].intercalate entries ++ [')']))

/-- Whether a column can stand in a list, and is not a part of what stands there. -/
structure CanBeListed (c : String) : Prop where
  some : c ≠ ""
  bare : Bare c.toList
  whole : ',' ∉ c.toList

theorem canBeListed_iff {c : String} : CanBeListed c ↔ c ≠ "" ∧ Bare c.toList ∧ ',' ∉ c.toList :=
  ⟨fun listed => ⟨listed.some,listed.bare,listed.whole⟩,fun parts => ⟨parts.1,parts.2.1,parts.2.2⟩⟩

instance (c : String) : Decidable (CanBeListed c) := decidable_of_iff _ canBeListed_iff.symm

/-- How a privilege may be written with its keyword and its columns, with white
    space around each of them. -/
inductive Shown (p : Privilege) : List Char → Prop
  | intro {before name gap after : List Char} {entries : List (List Char)} : Blank before →
      AnyCase p.keyword.toList name → Blank gap → List.Forall₂ (fun c e => Around c.toList e) p.columns entries →
      Blank after → Shown p (before ++ (name ++ gap ++ '(' :: ([','].intercalate entries ++ [')'])) ++ after)

theorem columnRight_ofWord?_iff {w : String} {r : ColumnRight} : ColumnRight.ofWord? w = some r ↔ w = r.word := by
  constructor
  · intro found
    unfold ColumnRight.ofWord? at found
    have same := List.find?_some found
    exact (eq_of_beq same).symm
  · rintro rfl
    cases r <;> rfl

theorem tableRight_ofWord?_iff {w : String} {r : TableRight} : TableRight.ofWord? w = some r ↔ w = r.word := by
  constructor
  · intro found
    unfold TableRight.ofWord? at found
    have same := List.find?_some found
    exact (eq_of_beq same).symm
  · rintro rfl
    cases r <;> rfl

theorem names_plain (p : Privilege) :
    ∀ n ∈ p.names, n.toList.map Char.toLower = n.toList ∧ n ≠ "" ∧ Bare n.toList ∧ '(' ∉ n.toList := by
  rcases p with r | ⟨r,_⟩ <;> cases r <;> simp only [names,TableRight.word,ColumnRight.word] <;> decide

theorem hasName_iff {p : Privilege} {s : String} : p.HasName s.toList ↔ asciiLower s ∈ p.names := by
  constructor
  · rintro ⟨n,listed,same⟩
    rwa [(asciiLower_eq_iff (p.names_plain n listed).1).mpr same]
  · intro listed
    exact ⟨_,listed,(asciiLower_eq_iff (p.names_plain _ listed).1).mp rfl⟩

theorem ofName_ok_iff {name : String} {columns : List String} {p : Privilege} :
    ofName name columns = .ok p ↔ p.HasName name.toList ∧ p.columns = columns := by
  rw [hasName_iff,ofName]
  generalize asciiLower name = w
  constructor
  · intro read
    split at read
    · rename_i r found
      cases read
      exact ⟨by simp [names,columnRight_ofWord?_iff.mp found],rfl⟩
    split at read
    · rename_i r found
      split at read
      · rename_i empty
        cases read
        refine ⟨?_,(List.isEmpty_iff.mp empty).symm⟩
        split at found
        · rename_i full
          cases found
          simp [names,full]
        · rw [tableRight_ofWord?_iff.mp found]
          cases r <;> simp [names,TableRight.word]
      · cases read
    · cases read
  · rintro ⟨listed,rfl⟩
    cases p with
    | onColumns r cs =>
      obtain rfl : w = r.word := by simpa [names] using listed
      rw [columnRight_ofWord?_iff.mpr rfl]
      rfl
    | onTable r =>
      cases r with
      | all =>
        obtain rfl | rfl : w = "all" ∨ w = "all privileges" := by simpa [names] using listed
        · rfl
        · rfl
      | _ =>
        obtain rfl := List.mem_singleton.mp listed
        rfl

/-- A name shows where it ends. -/
theorem hasName_plain {p : Privilege} {name : List Char} (named : p.HasName name) : name ≠ [] ∧ Bare name ∧ '(' ∉ name := by
  obtain ⟨n,listed,same⟩ := named
  obtain ⟨lower,present,bare,outside⟩ := p.names_plain n listed
  have folded : name.map Char.toLower = n.toList := by rw [← lower,map_toLower_eq_iff.mpr same]
  refine ⟨?_,?_,?_⟩
  · rintro rfl
    exact present (String.toList_eq_nil_iff.mp folded.symm)
  · rw [← bare_map_toLower,folded]
    exact bare
  · intro member
    exact outside (folded ▸ List.mem_map_of_mem (f := Char.toLower) member)

theorem hasName_of_keyword {p : Privilege} {name : List Char} (same : AnyCase p.keyword.toList name) : p.HasName name := by
  have known : p.keyword.toList.map Char.toLower ∈ p.names.map String.toList := by
    rcases p with r | ⟨r,_⟩ <;> cases r <;> simp only [names,keyword] <;> decide
  obtain ⟨n,listed,folded⟩ := List.mem_map.mp known
  refine ⟨n,listed,map_toLower_eq_iff.mp ?_⟩
  rw [(p.names_plain n listed).1,folded,map_toLower_eq_iff.mpr same]

/-- What is left of the entries of a list, each without the white space around
    it, are the columns. -/
theorem trimmed_iff {es : List (List Char)} {cs : List String} :
    (es.map fun e => String.ofList (trimChars e)).filter (· ≠ "") = cs ↔ Entries es cs := by
  constructor
  · rintro rfl
    induction es with
    | nil => exact .nil
    | cons e es ih =>
      rw [List.map_cons]
      by_cases empty : trimChars e = []
      · rw [List.filter_cons_of_neg (by simp [empty])]
        exact .blank (trimChars_eq_nil_iff.mp empty) ih
      · rw [List.filter_cons_of_pos (by simpa using empty)]
        refine .column (by simpa using empty) ?_ ?_ ih
        · simpa using bare_trimChars e
        · simpa using around_trimChars e
  · intro entries
    induction entries with
    | nil => rfl
    | blank blank _ ih => rw [List.map_cons,trimChars_eq_nil_iff.mpr blank,List.filter_cons_of_neg (by simp),ih]
    | @column e es c cs some bare around _ ih =>
      rw [List.map_cons,trimChars_of_around around bare,String.ofList_toList,List.filter_cons_of_pos (by simpa using some),ih]

theorem not_mem_of_mem_splitOn {sep : Char} {cs part : List Char} (member : part ∈ cs.splitOn sep) : sep ∉ part := by
  induction cs generalizing part with
  | nil =>
    simp only [List.splitOn_nil,List.mem_singleton] at member
    simp [member]
  | cons c cs ih =>
    rw [List.splitOn_cons_eq_if_modifyHead] at member
    split at member
    · rcases List.mem_cons.mp member with rfl | later
      · exact List.not_mem_nil
      · exact ih later
    · rename_i other
      cases split : cs.splitOn sep with
      | nil => exact absurd split (List.splitOn_ne_nil sep cs)
      | cons first rest =>
        rw [split,List.modifyHead_cons] at member
        rcases List.mem_cons.mp member with rfl | later
        · exact List.not_mem_cons_of_ne_of_not_mem (fun same => other (by simp [same])) (ih (by simp [split]))
        · exact ih (by simp [split,later])

/-- The columns of a list are those of its entries, however it is divided into
    entries without a comma. -/
theorem columnEntries_iff {list : List Char} {cs : List String} :
    columnEntries list = cs ↔
      ∃ entries, list = [','].intercalate entries ∧ entries ≠ [] ∧ (∀ e ∈ entries, ',' ∉ e) ∧ Entries entries cs := by
  rw [columnEntries,trimmed_iff]
  constructor
  · intro entries
    refine ⟨list.splitOn ',',?_,List.splitOn_ne_nil ',' list,?_,entries⟩
    · exact (List.intercalate_splitOn ',').symm
    · exact fun e member => not_mem_of_mem_splitOn member
  · rintro ⟨entries,rfl,some,whole,columns⟩
    rwa [List.splitOn_intercalate ',' whole some]

theorem canBeListed_of_entries {es : List (List Char)} {cs : List String} (whole : ∀ e ∈ es, ',' ∉ e) (entries : Entries es cs) :
    ∀ c ∈ cs, CanBeListed c := by
  induction entries with
  | nil => nofun
  | blank _ _ ih => exact ih fun e member => whole e (List.mem_cons_of_mem _ member)
  | @column e es c cs some bare around _ ih =>
    refine List.forall_mem_cons.mpr ⟨⟨some,bare,fun member => whole e List.mem_cons_self ?_⟩,
      ih fun e member => whole e (List.mem_cons_of_mem _ member)⟩
    obtain ⟨before,after,rfl,_,_⟩ := around
    simp [member]

theorem entries_of_listed {es : List (List Char)} {cs : List String} (listed : ∀ c ∈ cs, CanBeListed c)
    (around : List.Forall₂ (fun c e => Around c.toList e) cs es) : Entries es cs ∧ ∀ e ∈ es, ',' ∉ e := by
  induction around with
  | nil => exact ⟨.nil,nofun⟩
  | @cons c e cs es first _ ih =>
    obtain ⟨⟨some,bare,whole⟩,others⟩ := List.forall_mem_cons.mp listed
    obtain ⟨entries,separate⟩ := ih others
    refine ⟨.column some bare first entries,List.forall_mem_cons.mpr ⟨?_,separate⟩⟩
    obtain ⟨before,after,rfl,blank,blankAfter⟩ := first
    -- A comma is no white space, so it would stand in the column.
    have visible : isBlank ',' = false := by decide
    intro member
    simp only [List.mem_append] at member
    rcases member with (member | member) | member
    · exact absurd (blank _ member) (by simp [visible])
    · exact whole member
    · exact absurd (blankAfter _ member) (by simp [visible])

/-! ## Whole texts -/

/-- What is written of a privilege has no white space at its ends. -/
theorem bare_written {p : Privilege} {cs : List Char} (written : Written p cs) : Bare cs := by
  cases written with
  | alone named _ => exact (hasName_plain named).2.1
  | @listed name gap entries named _ _ _ _ =>
    obtain ⟨some,bare,_⟩ := hasName_plain named
    refine ⟨?_,?_⟩
    · rw [List.append_assoc,List.head?_append_of_ne_nil name some]
      exact bare.begins
    · rw [← List.cons_append,← List.append_assoc,List.getLast?_concat]
      rintro c ⟨⟩
      decide

/-- The name in front of a list is what is left there without the white space. -/
theorem trimmed_name {name behind core : List Char} (bare : Bare core) (whole : core = name ++ '(' :: behind) :
    ∃ gap, name = trimChars name ++ gap ∧ Blank gap := by
  obtain ⟨before,gap,around,blank,blankGap⟩ := around_trimChars name
  refine ⟨gap,?_,blankGap⟩
  cases before with
  | nil => exact around
  | cons c before =>
    have visible := bare.begins c (by rw [whole,around]; rfl)
    rw [blank c List.mem_cons_self] at visible
    cases visible

theorem parse_ok_iff {s : String} {p : Privilege} :
    parse s = .ok p ↔ ∃ core, Around core s.toList ∧ Written p core := by
  have text : (trim s).toList = trimChars s.toList := by simp [trim]
  constructor
  · intro read
    refine ⟨trimChars s.toList,around_trimChars _,?_⟩
    rw [parse,text] at read
    split at read
    · obtain ⟨named,empty⟩ := ofName_ok_iff.mp read
      rw [text] at named
      exact .alone named empty
    · rename_i name rest cut
      split at read
      · rename_i closed
        obtain ⟨list,rfl⟩ := List.getLast?_eq_some_iff.mp closed
        rw [List.dropLast_concat] at read
        obtain ⟨named,columns⟩ := ofName_ok_iff.mp read
        obtain ⟨whole,_⟩ := cutFirst?_eq_some_iff.mp cut
        obtain ⟨gap,around,blank⟩ := trimmed_name (bare_trimChars _) whole
        obtain ⟨entries,rfl,some,separate,listed⟩ := columnEntries_iff.mp columns.symm
        rw [String.toList_ofList] at named
        rw [whole,around]
        exact .listed named blank some separate listed
      · cases read
  · rintro ⟨core,around,written⟩
    have trimmed : trimChars s.toList = core := trimChars_of_around around (bare_written written)
    rw [parse,text,trimmed]
    cases written with
    | alone named empty =>
      obtain ⟨_,_,outside⟩ := hasName_plain named
      rw [cutFirst?_eq_none_iff.mpr outside]
      exact ofName_ok_iff.mpr ⟨by rwa [text,trimmed],empty⟩
    | @listed name gap entries named blank some separate columns =>
      obtain ⟨_,bare,outside⟩ := hasName_plain named
      have first : '(' ∉ name ++ gap := by
        intro member
        rcases List.mem_append.mp member with member | member
        · exact outside member
        · exact absurd (blank _ member) (by decide)
      have nameAround : Around name (name ++ gap) := ⟨[],gap,rfl,nofun,blank⟩
      rw [cutFirst?_of_append first]
      dsimp only
      rw [List.getLast?_concat,if_pos rfl,List.dropLast_concat,trimChars_of_around nameAround bare]
      refine ofName_ok_iff.mpr ⟨by rwa [String.toList_ofList],?_⟩
      exact (columnEntries_iff.mpr ⟨entries,rfl,some,separate,columns⟩).symm

/-- A text is read as a privilege if and only if, up to white space around it, it
    is a name of the privilege, alone where there are no columns, or in front of
    a list of the columns that ends the text. So the columns of what is read can
    all be listed, and a privilege with such columns is read back from its
    keyword and its columns. -/
theorem privilege_grammar :
    (∀ s p, parse s = .ok p ↔ ∃ core, Around core s.toList ∧ Written p core) ∧
    (∀ s p, parse s = .ok p → ∀ c ∈ p.columns, CanBeListed c) ∧
    ∀ s p, (∀ c ∈ p.columns, CanBeListed c) → Shown p s.toList → parse s = .ok p := by
  refine ⟨fun s p => parse_ok_iff,?_,?_⟩
  · intro s p read
    obtain ⟨core,_,written⟩ := parse_ok_iff.mp read
    cases written with
    | alone _ empty => simp [empty]
    | listed _ _ _ separate entries => exact canBeListed_of_entries separate entries
  · intro s p listed shown
    generalize whole : s.toList = cs at shown
    obtain @⟨before,name,gap,after,entries,blank,same,blankGap,around,blankAfter⟩ := shown
    obtain ⟨columns,separate⟩ := entries_of_listed listed around
    refine parse_ok_iff.mpr ⟨_,⟨before,after,whole,blank,blankAfter⟩,?_⟩
    by_cases none : entries = []
    · -- Nothing between the parentheses is one entry of no characters.
      subst none
      have nothing : [','].intercalate ([] : List (List Char)) = [','].intercalate [[]] := rfl
      have empty : Entries [[]] p.columns := .blank nofun columns
      rw [nothing]
      exact .listed (hasName_of_keyword same) blankGap (List.cons_ne_nil _ _) (by simp) empty
    · exact .listed (hasName_of_keyword same) blankGap none separate columns

theorem privilege_grammar_of_columns : parse "\tsElEcT (a b ,( )" = .ok (.onColumns .select ["a b","("]) := by
  have listed : ∀ c ∈ ["a b","("], CanBeListed c := by decide
  have blank : Blank ['\t'] := by decide
  have keyword : AnyCase "SELECT".toList "sElEcT".toList := map_toLower_eq_iff.mp (by decide)
  have gap : Blank [' '] := by decide
  have around : List.Forall₂ (fun c e => Around c.toList e) ["a b","("] ["a b ".toList,"( ".toList] :=
    .cons ⟨[],[' '],rfl,nofun,gap⟩ (.cons ⟨[],[' '],rfl,nofun,gap⟩ .nil)
  have shown : Shown (.onColumns .select ["a b","("]) "\tsElEcT (a b ,( )".toList :=
    @Shown.intro _ ['\t'] "sElEcT".toList [' '] [] ["a b ".toList,"( ".toList] blank keyword gap around nofun
  exact privilege_grammar.2.2 _ _ listed shown

/-- Parentheses in a column are part of it, and an entry without a column is passed over. -/
example : parse " Select\t( f(x), ,b\n)" = .ok (.onColumns .select ["f(x)","b"]) := by decide +kernel

end Privilege

end PortableDdl
