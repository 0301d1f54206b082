import PortableDdl.Proofs.Shape

/-!
# Quoted names delimit themselves

A quoted name is read up to the first quote that is not doubled, and what is found
is the name in its stored case, whatever stands in it and, a quote apart, whatever
stands behind it. So the text of a table with its schema, and that of a list of
names, is that of no others.
-/

namespace PortableDdl
open Sql

/-- The name that some characters begin with, and those behind its closing quote. -/
def Sql.readQuoted? (quote : Char) : List Char → Option (List Char × List Char)
  | [] => none
  | c :: rest => if c = quote then readName? quote rest else none

/-- The quoted name that a text begins with, and the text behind it. -/
def Dialect.quotedName? (d : Dialect) (t : String) : Option (String × String) :=
  (readQuoted? d.quoteChar t.toList).map fun p => (String.ofList p.1,String.ofList p.2)

theorem readQuoted?_quotedName (quote : Char) (n rest : List Char) :
    readQuoted? quote (quotedName quote n ++ rest) = readName? quote (doubled (· == quote) n ++ quote :: rest) := by
  simp [quotedName,readQuoted?]

/-- A name that another quote follows goes on behind it. -/
theorem readName?_doubled_twice (quote : Char) (n rest : List Char) :
    readName? quote (doubled (· == quote) n ++ quote :: quote :: rest) =
      (readName? quote rest).map fun p => (n ++ quote :: p.1,p.2) := by
  induction n with
  | nil => exact readName?_twice quote rest
  | cons c n ih =>
    rw [doubled_cons]
    by_cases same : c = quote
    · subst same
      simp [readName?_twice,ih,Function.comp_def]
    · simp [same,readName?_other same,ih,Function.comp_def]

/-- A quoted name and what follows are told apart, unless a quote follows. -/
theorem readQuoted?_eq_iff {quote : Char} {n rest : List Char} :
    readQuoted? quote (quotedName quote n ++ rest) = some (n,rest) ↔ rest.head? ≠ some quote := by
  rw [readQuoted?_quotedName]
  constructor
  · intro read first
    obtain ⟨more,rfl⟩ := List.head?_eq_some_iff.mp first
    rw [readName?_doubled_twice] at read
    obtain ⟨p,_,joined⟩ := Option.map_eq_some_iff.mp read
    exact absurd (congrArg Prod.fst joined) (by simp)
  · intro apart
    exact readName?_doubled quote n rest apart

variable {a : Adapter}

theorem toList_text_name (a : Adapter) (n : String) :
    (a.text [a.name n]).toList = quotedName a.dialect.quoteChar (a.dialect.fold n).toList := by
  simp [Adapter.text,Statement.text,Statement.chars,Adapter.name,Fragment.chars]

theorem quotedName?_eq_iff {n rest : String} :
    a.dialect.quotedName? (a.text [a.name n] ++ rest) = some (a.dialect.fold n,rest) ↔
      rest.toList.head? ≠ some a.dialect.quoteChar := by
  rw [← readQuoted?_eq_iff (n := (a.dialect.fold n).toList),Dialect.quotedName?,String.toList_append,toList_text_name,
    Option.map_eq_some_iff]
  constructor
  · rintro ⟨⟨m,behind⟩,read,same⟩
    obtain ⟨stored,left⟩ := Prod.mk.inj same
    rw [read,← stored,← left,String.toList_ofList,String.toList_ofList]
  · intro read
    exact ⟨_,read,by simp⟩

/-- Readable statements of one text consist of the same. -/
theorem tokens_of_text {s t : Statement} (readable : Readable a.dialect s) (other : Readable a.dialect t)
    (same : a.text s = a.text t) : s.tokens = t.tokens := by
  have found : scanText? a.dialect (a.text s) = some s.tokens := scanText?_text readable
  have again : scanText? a.dialect (a.text t) = some t.tokens := scanText?_text other
  exact Option.some.inj (found.symm.trans ((congrArg _ same).trans again))

theorem append_singleton_inj {s t : Option String} {n m : String} :
    s.toList ++ [n] = t.toList ++ [m] ↔ s = t ∧ n = m := by
  cases s <;> cases t <;> simp

theorem text_located_inj {s t : Option String} {n m : String} :
    a.text (located s n) = a.text (located t m) ↔ s = t ∧ n = m := by
  constructor
  · intro same
    have found := congrArg quotedNames (tokens_of_text (readable_located _ s n) (readable_located _ t m) same)
    rwa [quotedNames_located,quotedNames_located,append_singleton_inj] at found
  · rintro ⟨rfl,rfl⟩
    rfl

theorem text_names_inj {ns ms : List String} : a.text (names ns) = a.text (names ms) ↔ ns = ms := by
  constructor
  · intro same
    have found := congrArg quotedNames (tokens_of_text (readable_names _ ns) (readable_names _ ms) same)
    rwa [quotedNames_names,quotedNames_names] at found
  · rintro rfl
    rfl

theorem text_tableName_inj {s t : Option String} {n m : String} :
    a.text (a.tableName s n) = a.text (a.tableName t m) ↔
      (s.or a.settings.defaultSchema).map a.dialect.fold = (t.or a.settings.defaultSchema).map a.dialect.fold ∧
        a.dialect.fold n = a.dialect.fold m := by
  rw [Adapter.tableName,Adapter.tableName,Adapter.qualifiedName_eq_located,Adapter.qualifiedName_eq_located]
  exact text_located_inj

/-- Read back from the front of a text, a quoted name ends where it was ended and
    is the given name in its stored case, unless one more quote follows it. Two
    tables have one text if and only if their stored names are the same and so are
    their schemas, given or by default, so that a table without a schema is never
    one that has a schema. Two lists of names have one text if and only if they
    agree name by name in the stored case. -/
theorem quoted_names_delimit_themselves (a : Adapter) :
    (∀ n rest : String,
      a.dialect.quotedName? (a.text [a.name n] ++ rest) = some (a.dialect.fold n,rest) ↔
        rest.toList.head? ≠ some a.dialect.quoteChar) ∧
    (∀ (schema other : Option String) (table another : String),
      a.text (a.tableName schema table) = a.text (a.tableName other another) ↔
        (schema.or a.settings.defaultSchema).map a.dialect.fold =
            (other.or a.settings.defaultSchema).map a.dialect.fold ∧
          a.dialect.fold table = a.dialect.fold another) ∧
    (∀ schema table another : String, a.settings.defaultSchema = none →
      a.text (a.tableName none table) ≠ a.text (a.tableName (some schema) another)) ∧
    ∀ ns ms : List String,
      a.text (a.nameList ns) = a.text (a.nameList ms) ↔ ns.map a.dialect.fold = ms.map a.dialect.fold := by
  refine ⟨?_,?_,?_,?_⟩
  · intro n rest
    exact quotedName?_eq_iff
  · intro schema other table another
    exact text_tableName_inj
  · intro schema table another noDefault same
    have agree := (text_tableName_inj.mp same).1
    simp [noDefault] at agree
  · intro ns ms
    rw [Adapter.nameList_eq_names,Adapter.nameList_eq_names]
    exact text_names_inj

end PortableDdl
