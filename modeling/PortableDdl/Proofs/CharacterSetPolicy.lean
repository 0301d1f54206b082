import Mathlib.Data.List.Infix
import PortableDdl.Adapter.ColumnTypes
import PortableDdl.Proofs.WordForms

/-!
# What becomes of a character set

A column of characters is written in the character set that is asked for by name,
or the request is refused, or a warning names it and the column is that of no
request. Warnings come of the request alone, before the type is looked at.
-/

namespace PortableDdl

/-- The warnings on the way to a result. -/
def Logged.warnings {α : Type} (l : Logged α) : List Event := l.events.filter (·.level = .warn)

/-- Whether a text is made of ASCII letters, digits and underscores alone. -/
structure CharacterSetName (n : String) : Prop where
  some : n ≠ ""
  plain : ∀ c ∈ n.toList, ('a' ≤ c ∧ c ≤ 'z') ∨ ('A' ≤ c ∧ c ≤ 'Z') ∨ ('0' ≤ c ∧ c ≤ '9') ∨ c = '_'

/-- Whether an event shows a text between single quotes. -/
def Event.Names (e : Event) (n : String) : Prop := ("'" ++ n ++ "'").toList <:+: e.text.toList

theorem isCharacterSetName_iff (n : String) : isCharacterSetName n = true ↔ CharacterSetName n := by
  simp only [isCharacterSetName,Bool.and_eq_true,decide_eq_true_eq,List.all_eq_true,Bool.or_eq_true,isAlphanum_iff,
    beq_iff_eq,or_assoc]
  constructor
  · rintro ⟨some,plain⟩
    exact ⟨some,plain⟩
  · rintro ⟨some,plain⟩
    exact ⟨some,plain⟩

theorem warnings_andThen {α β : Type} (l : Logged α) (f : α → Logged β) :
    (l.andThen f).warnings = l.warnings ++ (f l.value).warnings := List.filter_append _ _

variable {d : Dialect} {t : ColumnType} {n : String}

theorem value_columnDefinition (d : Dialect) (t : ColumnType) (c : Option CharacterSet) :
    (d.columnDefinition t c).value = d.columnType t (d.textEncoding c).value := by
  rw [Dialect.columnDefinition,Logged.andThen]
  dsimp only
  cases d.columnType t (d.textEncoding c).value <;> rfl

/-- The type adds no warning to those of the request, not even if it is refused. -/
theorem warnings_columnDefinition (d : Dialect) (t : ColumnType) (c : Option CharacterSet) :
    (d.columnDefinition t c).warnings = (d.textEncoding c).warnings := by
  rw [Dialect.columnDefinition,warnings_andThen]
  cases d.columnType t (d.textEncoding c).value <;> simp [Logged.warnings,Event.debug]

theorem warnings_unnamed {c : Option CharacterSet} (unnamed : c = none ∨ c = some .unicode) :
    (d.textEncoding c).warnings = [] := by
  rcases unnamed with rfl | rfl
  · cases d <;> rfl
  · cases d <;> rfl

theorem warnings_mysql (c : Option CharacterSet) : (Dialect.mysql.textEncoding c).warnings = [] := by
  rcases c with _ | _ | n <;> rfl

theorem names_ignored (n reason : String) : (ignoredCharacterSet n reason).Names n := by
  refine ⟨"Ignoring character set ".toList,(": " ++ reason).toList,?_⟩
  simp [ignoredCharacterSet,Event.warn,String.toList_append]

/-- Where names of character sets are not honoured, each is reported, and then
    nothing differs from no request. -/
theorem textEncoding_named (other : d ≠ .mysql) (n : String) :
    (d.textEncoding (some (.named n))).value = (d.textEncoding none).value ∧
      ∃ w, (d.textEncoding (some (.named n))).warnings = [w] ∧ w.Names n := by
  cases d with
  | mysql => contradiction
  | derby => exact ⟨rfl,_,rfl,names_ignored n _⟩
  | oracle => exact ⟨rfl,_,rfl,names_ignored n _⟩
  | postgres => exact ⟨rfl,_,rfl,names_ignored n _⟩

/-- Every dialect has columns of characters. -/
theorem text_defined (d : Dialect) (isText : t.isText = true) : ∃ f, (d.columnDefinition t none).value = .ok f := by
  rw [value_columnDefinition]
  cases t <;> simp [ColumnType.isText] at isText <;> cases d <;> exact ⟨_,rfl⟩

/-- MySQL writes the character set behind the type, or refuses what cannot be its
    name. -/
theorem mysql_named (isText : t.isText = true) (n : String) :
    ∃ plain, (Dialect.mysql.columnDefinition t none).value = .ok plain ∧
      (CharacterSetName n → (Dialect.mysql.columnDefinition t (some (.named n))).value =
        .ok { plain with suffix := some ("CHARACTER SET " ++ n) }) ∧
      (¬ CharacterSetName n → (Dialect.mysql.columnDefinition t (some (.named n))).value =
        .error (.invalidConfiguration (.notCharacterSet n))) := by
  have column : ∀ e, Dialect.mysql.columnType t e = characterColumn t.usualColumn e := fun e => if_pos isText
  refine ⟨t.usualColumn,?_,?_,?_⟩
  · rw [value_columnDefinition,column]
    rfl
  · intro named
    rw [value_columnDefinition,column]
    exact if_pos ((isCharacterSetName_iff n).mpr named)
  · intro unnamed
    rw [value_columnDefinition,column]
    exact if_neg fun isName => unnamed ((isCharacterSetName_iff n).mp isName)

/-- No character set that is asked for by name is given up in silence. MySQL
    writes it behind the type of a column of characters, or refuses it; the other
    dialects report it, once, and give the column of no request. There is no
    warning without a name, and none that depends on the type, so that it is there
    too when the type is refused. -/
theorem character_set_honoured_or_reported (a : Adapter) :
    (∀ t n, t.isText = true →
      let asked := a.dialect.columnDefinition t (some (.named n))
      ∃ plain, (a.dialect.columnDefinition t none).value = .ok plain ∧
        (a.dialect = .mysql → asked.warnings = [] ∧
          (CharacterSetName n → asked.value = .ok { plain with suffix := some ("CHARACTER SET " ++ n) }) ∧
          (¬ CharacterSetName n → asked.value = .error (.invalidConfiguration (.notCharacterSet n)))) ∧
        (a.dialect ≠ .mysql → asked.value = .ok plain ∧ ∃ w, asked.warnings = [w] ∧ w.Names n)) ∧
    (∀ t c, c = none ∨ c = some .unicode → (a.dialect.columnDefinition t c).warnings = []) ∧
    ∀ t c, (a.dialect.columnDefinition t c).warnings = (a.dialect.textEncoding c).warnings := by
  refine ⟨?_,?_,warnings_columnDefinition a.dialect⟩
  · intro t n isText
    by_cases mysql : a.dialect = .mysql
    · rw [mysql]
      obtain ⟨plain,unasked,honoured,refused⟩ := mysql_named isText n
      refine ⟨plain,unasked,fun _ => ⟨?_,honoured,refused⟩,fun other => absurd rfl other⟩
      rw [warnings_columnDefinition]
      exact warnings_mysql _
    · obtain ⟨plain,unasked⟩ := text_defined a.dialect isText
      obtain ⟨same,reported⟩ := textEncoding_named mysql n
      refine ⟨plain,unasked,fun is => absurd is mysql,fun _ => ⟨?_,?_⟩⟩
      · rw [value_columnDefinition,same,← value_columnDefinition]
        exact unasked
      · rw [warnings_columnDefinition]
        exact reported
  · intro t c unnamed
    rw [warnings_columnDefinition]
    exact warnings_unnamed unnamed

/-- A truth value is no column of Oracle, but its character set is reported. -/
example : (Dialect.oracle.columnDefinition .boolean (some (.named "latin1"))).value =
      .error (.unsupportedColumnType .oracle .boolean) ∧
    (Dialect.oracle.columnDefinition .boolean (some (.named "latin1"))).warnings.length = 1 := by
  decide

end PortableDdl
