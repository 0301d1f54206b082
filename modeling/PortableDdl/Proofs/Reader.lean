import Mathlib.Tactic.Set
import PortableDdl.Proofs.Scanner

/-!
# Reading a statement back

Readers take what they look for from the front of scanned text. Here stand the
readers of what all statements share: fixed words, names with a schema before
them, and lists with commas.
-/

namespace PortableDdl.Sql

theorem tokens_nil : Statement.tokens [] = [] := rfl

theorem tokens_cons (f : Fragment) (s : Statement) : Statement.tokens (f :: s) = f.tokens ++ Statement.tokens s := rfl

theorem tokens_append (s t : Statement) :
    Statement.tokens (s ++ t) = Statement.tokens s ++ Statement.tokens t := List.flatMap_append

theorem separated_singleton (words : String) (part : Statement) : Statement.separated words [part] = part :=
  List.intercalate_singleton

theorem separated_cons_cons (words : String) (first second : Statement) (parts : List Statement) :
    Statement.separated words (first :: second :: parts) =
      first ++ ([.words words] ++ Statement.separated words (second :: parts)) := by
  rw [Statement.separated,List.intercalate_cons_cons,List.append_assoc]
  rfl

theorem text_append (quote : Char) (s t : Statement) :
    Statement.text quote (s ++ t) = Statement.text quote s ++ Statement.text quote t := by
  simp [Statement.text,Statement.chars]

theorem text_words (quote : Char) (t : String) : Statement.text quote [.words t] = t := by
  simp [Statement.text,Statement.chars,Fragment.chars]

theorem text_separated (quote : Char) (words : String) (parts : List Statement) :
    Statement.text quote (Statement.separated words parts) = words.intercalate (parts.map (Statement.text quote)) := by
  induction parts with
  | nil => rfl
  | cons part parts ih =>
    cases parts with
    | nil => simp [separated_singleton]
    | cons next parts =>
      rw [separated_cons_cons,text_append,text_append,text_words,ih]
      simp only [List.map_cons,String.intercalate_cons_cons,String.append_assoc]

/-- Readable parts remain so with words between them. -/
theorem readable_separated {d : Dialect} {words : String} (there : words ≠ "") (isPlain : plain words.toList = true)
    (parts : List Statement) (readable : ∀ p ∈ parts, Readable d p) :
    Readable d (Statement.separated words parts) := by
  induction parts with
  | nil => exact readable_nil d
  | cons first parts ih =>
    have firstReadable := readable first List.mem_cons_self
    have restReadable := ih fun p member => readable p (List.mem_cons_of_mem _ member)
    cases parts with
    | nil => rw [separated_singleton]; exact firstReadable
    | cons second parts =>
      rw [separated_cons_cons]
      exact readable_around.mpr ⟨firstReadable,⟨there,isPlain⟩,restReadable⟩

/-- Takes something from the front of a list of tokens, if it is there. -/
abbrev Reader := StateT (List Token) Option

/-- Whether a reader finds in a statement just what is given, when the tokens in
    `rest` follow. -/
def Reads {α : Type} (r : Reader α) (s : Statement) (rest : List Token) (x : α) : Prop :=
  r.run (s.tokens ++ rest) = some (x,rest)

theorem reads_pure {α : Type} (x : α) (rest : List Token) : Reads (pure x) [] rest x := rfl

/-- One reader after another reads one statement after another. -/
theorem Reads.bind {α β : Type} {r : Reader α} {next : α → Reader β} {s t : Statement} {rest : List Token} {x : α}
    {y : β} (first : Reads r s (t.tokens ++ rest) x) (second : Reads (next x) t rest y) :
    Reads (r >>= next) (s ++ t) rest y := by
  rw [Reads,tokens_append,List.append_assoc,StateT.run_bind,first]
  exact second

/-- A reader that is the last one leaves its result to a function. -/
theorem Reads.map {α β : Type} {r : Reader α} {f : α → β} {s : Statement} {rest : List Token} {x : α}
    (read : Reads r s rest x) : Reads (do return f (← r)) s rest (f x) := by
  have both : Reads (r >>= fun x => pure (f x)) (s ++ []) rest (f x) := Reads.bind read (reads_pure (f x) rest)
  rwa [List.append_nil] at both

namespace Reader

/-- The tokens behind the given characters. -/
def skip : List Char → List Token → Option (List Token)
  | [], ts => some ts
  | c :: cs, .outside d :: ts => if c = d then skip cs ts else none
  | _, _ => none

/-- Reads the given words. -/
def words (t : String) : Reader Unit := fun ts => (skip t.toList ts).map fun rest => ((),rest)

/-- Reads a name. -/
def name : Reader String
  | .name n :: rest => some (n,rest)
  | _ => none

/-- Reads a name and the schema before it, if there is one. -/
def located : Reader (Option String × String)
  | .name schema :: .outside '.' :: .name n :: rest => some ((some schema,n),rest)
  | .name n :: rest => some ((none,n),rest)
  | _ => none

/-- Reads one of several words, each of which stands for something. -/
def oneOf {α : Type} (choices : List (String × α)) : Reader α := fun ts =>
  choices.findSome? fun choice => (skip choice.1.toList ts).map fun rest => (choice.2,rest)

/-- Reads items with commas between them, as long as a comma follows. -/
def commaSeparated {α : Type} (item : Reader α) : Reader (List α) := fun ts =>
  match item.run ts with
  | none => none
  | some (x,rest) =>
    match skip [',',' '] rest with
    | none => some ([x],rest)
    | some more =>
      if _shorter : more.length < ts.length then (commaSeparated item more).map fun p => (x :: p.1,p.2) else none
termination_by ts => ts.length

/-- Reads a whole text. -/
def all {α : Type} (r : Reader α) (d : Dialect) (t : String) : Option α := do
  let ts ← scanText? d t
  let (x,rest) ← r.run ts
  if rest.isEmpty then some x else none

end Reader

theorem skip_outside (cs : List Char) (ts : List Token) : Reader.skip cs (cs.map .outside ++ ts) = some ts := by
  induction cs with
  | nil => rfl
  | cons c cs ih => simpa [Reader.skip] using ih

/-- Words that can be skipped at the front of other words: the one are the
    beginning of the other. -/
theorem prefix_of_skip {cs ds : List Char} {ts rest : List Token}
    (skipped : Reader.skip cs (ds.map .outside ++ ts) = some rest) : cs <+: ds ∨ ds <+: cs := by
  induction cs generalizing ds with
  | nil => exact .inl List.nil_prefix
  | cons c cs ih =>
    cases ds with
    | nil => exact .inr List.nil_prefix
    | cons e ds =>
      simp only [List.map_cons,List.cons_append,Reader.skip] at skipped
      split at skipped
      · rename_i same
        subst same
        simpa [List.cons_prefix_cons] using ih skipped
      · cases skipped

/-- Neither of two words begins with the other. -/
abbrev Differ (v w : String) : Prop := ¬ (v.toList <+: w.toList ∨ w.toList <+: v.toList)

theorem skip_differ {v w : String} (different : Differ v w) (ts : List Token) :
    Reader.skip v.toList (w.toList.map .outside ++ ts) = none := by
  rw [← Option.not_isSome_iff_eq_none,Option.isSome_iff_exists]
  rintro ⟨rest,skipped⟩
  exact different (prefix_of_skip skipped)

theorem reads_words (t : String) (rest : List Token) : Reads (Reader.words t) [.words t] rest () := by
  show (Reader.skip t.toList (t.toList.map .outside ++ [] ++ rest)).map _ = _
  rw [List.append_nil,skip_outside]
  rfl

theorem reads_name (n : String) (rest : List Token) : Reads Reader.name [.name n] rest n := rfl

/-- One of several words is read if all others differ from it. -/
theorem reads_oneOf {α : Type} {choices : List (String × α)} {t : String} {x : α} (listed : (t,x) ∈ choices)
    (distinct : ∀ choice ∈ choices, choice = (t,x) ∨ Differ choice.1 t) (rest : List Token) :
    Reads (Reader.oneOf choices) [.words t] rest x := by
  show choices.findSome? _ = some (x,rest)
  rw [tokens_cons,tokens_nil,List.append_nil]
  induction choices with
  | nil => cases listed
  | cons choice choices ih =>
    rw [List.findSome?_cons,Fragment.tokens]
    by_cases same : choice = (t,x)
    · subst same
      rw [skip_outside,Option.map_some]
    · have different := (distinct choice List.mem_cons_self).resolve_left same
      rw [skip_differ different,Option.map_none]
      have later : (t,x) ∈ choices := (List.mem_cons.mp listed).resolve_left fun equal => same equal.symm
      exact ih later fun other member => distinct other (List.mem_cons_of_mem _ member)

/-- Something is read by its word if all others have words that differ. -/
theorem reads_oneOf_word {α : Type} {word : α → String} {xs : List α}
    (distinct : ∀ x ∈ xs, ∀ y ∈ xs, y = x ∨ Differ (word y) (word x)) {x : α} (member : x ∈ xs)
    (rest : List Token) : Reads (Reader.oneOf (xs.map fun x => (word x,x))) [.words (word x)] rest x := by
  have listed : (word x,x) ∈ xs.map fun x => (word x,x) := List.mem_map.mpr ⟨x,member,rfl⟩
  refine reads_oneOf listed ?_ rest
  intro choice chosen
  obtain ⟨y,other,rfl⟩ := List.mem_map.mp chosen
  rcases distinct x member y other with rfl | different
  · exact .inl rfl
  · exact .inr different

/-- Items with commas between them are read one by one, if each is read where a
    comma or the end of the list follows it. -/
theorem reads_commaSeparated {α : Type} {item : Reader α} {write : α → Statement} {rest : List Token}
    (closed : Reader.skip [',',' '] rest = none) (xs : List α) (present : xs ≠ [])
    (reads : ∀ x ∈ xs, ∀ more, more = rest ∨ (∃ tail, more = .outside ',' :: .outside ' ' :: tail) →
      Reads item (write x) more x) :
    Reads (Reader.commaSeparated item) (Statement.separated ", " (xs.map write)) rest xs := by
  induction xs with
  | nil => exact absurd rfl present
  | cons x xs ih =>
    cases xs with
    | nil =>
      have read := reads x List.mem_cons_self rest (.inl rfl)
      rw [List.map_singleton,separated_singleton,Reads]
      show Reader.commaSeparated item _ = _
      rw [Reader.commaSeparated,read]
      simp [closed]
    | cons y ys =>
      have tail := ih (by simp) fun z member => reads z (List.mem_cons_of_mem _ member)
      -- The tokens behind the comma that follows the first item.
      set more := (Statement.separated ", " ((y :: ys).map write)).tokens ++ rest
      have tailRead : Reader.commaSeparated item more = some (y :: ys,rest) := tail
      have read : item.run ((write x).tokens ++ (.outside ',' :: .outside ' ' :: more)) =
          some (x,.outside ',' :: .outside ' ' :: more) := reads x List.mem_cons_self _ (.inr ⟨more,rfl⟩)
      have split : (Statement.separated ", " ((x :: y :: ys).map write)).tokens ++ rest =
          (write x).tokens ++ (.outside ',' :: .outside ' ' :: more) := by
        rw [List.map_cons,List.map_cons,separated_cons_cons,← List.map_cons,tokens_append,List.append_assoc]
        rfl
      have shorter : more.length < ((write x).tokens ++ (.outside ',' :: .outside ' ' :: more)).length := by
        simp only [List.length_append,List.length_cons]
        omega
      show Reader.commaSeparated item _ = _
      rw [split,Reader.commaSeparated,read]
      simp only [Reader.skip,↓reduceIte]
      rw [dif_pos shorter,tailRead]
      rfl

theorem all_of_reads {α : Type} {r : Reader α} {d : Dialect} {s : Statement} {x : α} (readable : Readable d s)
    (read : Reads r s [] x) : r.all d (s.text d.quoteChar) = some x := by
  rw [Reads,List.append_nil] at read
  simp [Reader.all,scanText?_text readable,read]

/-- A stored name behind its stored schema, if there is one. -/
def located (schema : Option String) (n : String) : Statement :=
  match schema with
  | some s => [.name s,.words ".",.name n]
  | none => [.name n]

/-- Stored names with commas between them. -/
def names (stored : List String) : Statement := Statement.separated ", " (stored.map fun n => [.name n])

theorem readable_name (d : Dialect) (n : String) : Readable d [.name n] :=
  readable_cons.mpr ⟨trivial,by simp,readable_nil d⟩

theorem readable_located (d : Dialect) (schema : Option String) (n : String) : Readable d (located schema n) := by
  cases schema with
  | none => exact readable_name d n
  | some s => exact readable_around.mpr ⟨readable_name d s,⟨by decide,by decide⟩,readable_name d n⟩

theorem readable_names (d : Dialect) (stored : List String) : Readable d (names stored) := by
  refine readable_separated (by decide) (by decide) _ ?_
  intro part member
  obtain ⟨n,_,rfl⟩ := List.mem_map.mp member
  exact readable_name d n

/-- A name is read with its schema, if no point follows it. -/
theorem reads_located (schema : Option String) (n : String) {rest : List Token}
    (closed : rest.head? ≠ some (.outside '.')) : Reads Reader.located (located schema n) rest (schema,n) := by
  cases schema with
  | some s => rfl
  | none =>
    cases rest with
    | nil => rfl
    | cons next rest =>
      show Reader.located (.name n :: next :: rest) = _
      unfold Reader.located
      split
      · rename_i same
        cases same
        simp at closed
      · rename_i same
        cases same
        rfl
      · rename_i missing
        exact absurd rfl (missing n _)

/-- A list of names is read up to its last one, if no comma follows it. -/
theorem reads_names (stored : List String) (present : stored ≠ []) {rest : List Token}
    (closed : Reader.skip [',',' '] rest = none) :
    Reads (Reader.commaSeparated Reader.name) (names stored) rest stored :=
  reads_commaSeparated closed stored present fun n _ more _ => reads_name n more

end PortableDdl.Sql

namespace PortableDdl.Adapter
open Sql

theorem qualifiedName_eq_located (a : Adapter) (schema : Option String) (n : String) :
    a.qualifiedName schema n = located ((a.effectiveSchema schema).map a.dialect.fold) (a.dialect.fold n) := by
  unfold qualifiedName
  cases a.effectiveSchema schema <;> rfl

theorem nameList_eq_names (a : Adapter) (ns : List String) : a.nameList ns = names (ns.map a.dialect.fold) := by
  simp [nameList,names,name,Function.comp_def]

end PortableDdl.Adapter
