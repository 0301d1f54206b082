import Mathlib.Data.List.Chain
import PortableDdl.Adapter

/-!
# Scanning the text of a statement

A scanner reads a text from left to right by the quoting rule of a dialect and
tells the names and values between quotes from the characters outside them. It
finds in the text of a statement exactly the pieces that the statement was made
of, whatever characters stand in the names and values.
-/

namespace PortableDdl

/-- Whether a dialect writes values between single quotes. -/
def Dialect.readsLiterals : Dialect → Bool
  | .mysql => true
  | _ => false

namespace Sql

/-- What a scanner finds: a character outside all quotes, or all that stands
    between two quotes. -/
inductive Token where
  | outside (c : Char)
  /-- A name, with its doubled quotes undone. -/
  | name (stored : String)
  /-- A value, with its escapes undone. -/
  | literal (value : String)
deriving DecidableEq, Repr

/-- The name behind an opening quote, up to the first quote that is not doubled,
    and what follows that quote. -/
def readName? (quote : Char) : List Char → Option (List Char × List Char)
  | [] => none
  | c :: rest =>
    if c = quote then
      match rest with
      | [] => some ([], [])
      | d :: more =>
        if d = quote then (readName? quote more).map fun p => (quote :: p.1, p.2)
        else some ([], d :: more)
    else (readName? quote rest).map fun p => (c :: p.1, p.2)

/-- What a backslash and the character behind it stand for in MySQL. -/
def unescaped : Char → List Char
  | '0' => ['\x00']
  | 'b' => ['\x08']
  | 'n' => ['\n']
  | 'r' => ['\r']
  | 't' => ['\t']
  | 'Z' => ['\x1a']
  | '%' => ['\\', '%']
  | '_' => ['\\', '_']
  | c => [c]

/-- The value behind an opening single quote, up to the first single quote that
    is neither doubled nor escaped, and what follows that quote. -/
def readLiteral? : List Char → Option (List Char × List Char)
  | [] => none
  | c :: rest =>
    if c = '\'' then
      match rest with
      | [] => some ([], [])
      | d :: more =>
        if d = '\'' then (readLiteral? more).map fun p => ('\'' :: p.1, p.2)
        else some ([], d :: more)
    else if c = '\\' then
      match rest with
      | [] => none
      | d :: more => (readLiteral? more).map fun p => (unescaped d ++ p.1, p.2)
    else (readLiteral? rest).map fun p => (c :: p.1, p.2)

theorem readName?_other {quote c : Char} (different : c ≠ quote) (rest : List Char) :
    readName? quote (c :: rest) = (readName? quote rest).map fun p => (c :: p.1,p.2) := by
  rw [readName?.eq_def]
  simp [different]

theorem readName?_twice (quote : Char) (rest : List Char) :
    readName? quote (quote :: quote :: rest) = (readName? quote rest).map fun p => (quote :: p.1,p.2) := by
  simp [readName?]

/-- A quote ends the name unless another one follows. -/
theorem readName?_end (quote : Char) (rest : List Char) (apart : rest.head? ≠ some quote) :
    readName? quote (quote :: rest) = some ([],rest) := by
  cases rest with
  | nil => simp [readName?]
  | cons d more =>
    have different : d ≠ quote := by simpa using apart
    simp [readName?,different]

theorem readLiteral?_other {c : Char} (noQuote : c ≠ '\'') (noEscape : c ≠ '\\') (rest : List Char) :
    readLiteral? (c :: rest) = (readLiteral? rest).map fun p => (c :: p.1,p.2) := by
  rw [readLiteral?.eq_def]
  simp [noQuote,noEscape]

theorem readLiteral?_twice {c : Char} (special : isLiteralSpecial c = true) (rest : List Char) :
    readLiteral? (c :: c :: rest) = (readLiteral? rest).map fun p => (c :: p.1,p.2) := by
  simp only [isLiteralSpecial,Bool.or_eq_true,beq_iff_eq] at special
  rcases special with rfl | rfl
  · simp [readLiteral?]
  · simp [readLiteral?,unescaped]

/-- A single quote ends the value unless another one follows. -/
theorem readLiteral?_end (rest : List Char) (apart : rest.head? ≠ some '\'') :
    readLiteral? ('\'' :: rest) = some ([],rest) := by
  cases rest with
  | nil => simp [readLiteral?]
  | cons d more =>
    have different : d ≠ '\'' := by simpa using apart
    simp [readLiteral?,different]

/-- How much is left does not depend on what is made of the characters read. -/
theorem shorter_of_map {found : Option (List Char × List Char)} {f : List Char × List Char → List Char × List Char}
    {p : List Char × List Char} {m n : Nat} (read : found.map f = some p) (keeps : ∀ q, (f q).2 = q.2)
    (left : ∀ {q}, found = some q → q.2.length < m) (fewer : m ≤ n) : p.2.length < n := by
  obtain ⟨q,readTail,rfl⟩ := Option.map_eq_some_iff.mp read
  rw [keeps]
  exact lt_of_lt_of_le (left readTail) fewer

theorem readName?_length {quote : Char} {cs : List Char} {p : List Char × List Char}
    (read : readName? quote cs = some p) : p.2.length < cs.length := by
  fun_induction readName? quote cs generalizing p with
  | case1 => cases read
  | case2 => cases read; simp
  | case3 more ih => exact shorter_of_map read (fun _ => rfl) ih (Nat.le_add_right more.length 2)
  | case4 => cases read; simp
  | case5 _ rest _ ih => exact shorter_of_map read (fun _ => rfl) ih (Nat.le_add_right rest.length 1)

theorem readLiteral?_length {cs : List Char} {p : List Char × List Char}
    (read : readLiteral? cs = some p) : p.2.length < cs.length := by
  fun_induction readLiteral? cs generalizing p with
  | case1 => cases read
  | case2 => cases read; simp
  | case3 more ih => exact shorter_of_map read (fun _ => rfl) ih (Nat.le_add_right more.length 2)
  | case4 => cases read; simp
  | case5 => cases read
  | case6 d more _ ih => exact shorter_of_map read (fun _ => rfl) ih (Nat.le_add_right more.length 2)
  | case7 _ rest _ _ ih => exact shorter_of_map read (fun _ => rfl) ih (Nat.le_add_right rest.length 1)

theorem doubled_cons (special : Char → Bool) (c : Char) (cs : List Char) :
    doubled special (c :: cs) = (if special c then [c,c] else [c]) ++ doubled special cs := rfl

/-- A quoted name is read back, and nothing of what follows is taken for it. -/
theorem readName?_doubled (quote : Char) (n rest : List Char) (apart : rest.head? ≠ some quote) :
    readName? quote (doubled (· == quote) n ++ quote :: rest) = some (n,rest) := by
  induction n with
  | nil => exact readName?_end quote rest apart
  | cons c n ih =>
    rw [doubled_cons]
    by_cases same : c = quote
    · subst same
      simp [readName?_twice,ih]
    · simp [same,readName?_other same,ih]

/-- A literal is read back, and nothing of what follows is taken for it. -/
theorem readLiteral?_doubled (v rest : List Char) (apart : rest.head? ≠ some '\'') :
    readLiteral? (doubled isLiteralSpecial v ++ '\'' :: rest) = some (v,rest) := by
  induction v with
  | nil => exact readLiteral?_end rest apart
  | cons c v ih =>
    rw [doubled_cons]
    by_cases special : isLiteralSpecial c = true
    · simp [special,readLiteral?_twice special,ih]
    · have plain : c ≠ '\'' ∧ c ≠ '\\' := by simpa [isLiteralSpecial] using special
      simp [special,readLiteral?_other plain.1 plain.2,ih]

/-- The tokens of a text, if every quote that is opened is closed. -/
def scan? (d : Dialect) : List Char → Option (List Token)
  | [] => some []
  | c :: rest =>
    if c = d.quoteChar then
      match _read : readName? d.quoteChar rest with
      | some (n,after) => (scan? d after).map (.name (String.ofList n) :: ·)
      | none => none
    else if d.readsLiterals ∧ c = '\'' then
      match _read : readLiteral? rest with
      | some (v,after) => (scan? d after).map (.literal (String.ofList v) :: ·)
      | none => none
    else (scan? d rest).map (.outside c :: ·)
termination_by cs => cs.length
decreasing_by
  · have shorter : after.length < rest.length := readName?_length _read
    simp only [List.length_cons]
    omega
  · have shorter : after.length < rest.length := readLiteral?_length _read
    simp only [List.length_cons]
    omega
  · simp

/-- Characters that open no quotes in any dialect. -/
def plain (cs : List Char) : Bool := cs.all fun c => c != '"' && c != '\x60' && c != '\''

/-- The tokens of a piece. -/
def Fragment.tokens : Fragment → List Token
  | .words t => t.toList.map .outside
  | .name n => [.name n]
  | .literal v => [.literal v]

/-- The tokens of a statement. -/
def Statement.tokens (s : Statement) : List Token := s.flatMap Fragment.tokens

theorem scan?_plain (d : Dialect) {cs : List Char} (isPlain : plain cs = true) (rest : List Char) :
    scan? d (cs ++ rest) = (scan? d rest).map (cs.map .outside ++ ·) := by
  induction cs with
  | nil => simp
  | cons c cs ih =>
    simp only [plain,List.all_cons,Bool.and_eq_true,bne_iff_ne] at isPlain
    have noName : c ≠ d.quoteChar := by cases d <;> simp [Dialect.quoteChar,isPlain]
    rw [List.cons_append,scan?]
    simp [noName,isPlain,ih isPlain.2]
    rfl

theorem scan?_name (d : Dialect) (n : String) (rest : List Char) (apart : rest.head? ≠ some d.quoteChar) :
    scan? d (quotedName d.quoteChar n.toList ++ rest) = (scan? d rest).map (.name n :: ·) := by
  have read := readName?_doubled d.quoteChar n.toList rest apart
  have opened : quotedName d.quoteChar n.toList ++ rest =
      d.quoteChar :: (doubled (· == d.quoteChar) n.toList ++ d.quoteChar :: rest) := by simp [quotedName]
  rw [opened,scan?,if_pos rfl]
  split
  · rename_i name after found
    obtain ⟨rfl,rfl⟩ := Prod.mk.inj (Option.some.inj (found.symm.trans read))
    simp
  · rename_i missing
    cases missing.symm.trans read

theorem scan?_literal {d : Dialect} (literals : d.readsLiterals = true) (v : String) (rest : List Char)
    (apart : rest.head? ≠ some '\'') :
    scan? d (literal v.toList ++ rest) = (scan? d rest).map (.literal v :: ·) := by
  have read := readLiteral?_doubled v.toList rest apart
  have opened : literal v.toList ++ rest =
      '\'' :: (doubled isLiteralSpecial v.toList ++ '\'' :: rest) := by simp [literal]
  have noName : '\'' ≠ d.quoteChar := by cases d <;> decide
  rw [opened,scan?,if_neg noName,if_pos ⟨literals,rfl⟩]
  split
  · rename_i value after found
    obtain ⟨rfl,rfl⟩ := Prod.mk.inj (Option.some.inj (found.symm.trans read))
    simp
  · rename_i missing
    cases missing.symm.trans read

/-! ## Statements that can be told apart again -/

/-- Whether a piece can be told from its neighbours: words are there and open no
    quotes, and values are only written where they are read. -/
def Fragment.Plain (d : Dialect) : Fragment → Prop
  | .words t => t ≠ "" ∧ plain t.toList = true
  | .name _ => True
  | .literal _ => d.readsLiterals = true

/-- Whether the quotes between two pieces are not taken for one doubled quote. -/
def Fragment.Apart : Fragment → Fragment → Prop
  | .name _, .name _ => False
  | .literal _, .literal _ => False
  | _, _ => True

/-- A statement whose text shows its pieces. -/
structure Readable (d : Dialect) (s : Statement) : Prop where
  /-- Every piece can be told from its neighbours. -/
  plain : ∀ f ∈ s, f.Plain d
  /-- No two quotes meet. -/
  apart : s.IsChain Fragment.Apart

theorem apart_words_left (t : String) (f : Fragment) : (Fragment.words t).Apart f := by
  cases f <;> trivial

theorem apart_words_right (f : Fragment) (t : String) : f.Apart (.words t) := by
  cases f <;> trivial

theorem readable_nil (d : Dialect) : Readable d [] := ⟨by simp,by simp⟩

theorem readable_cons {d : Dialect} {f : Fragment} {s : Statement} :
    Readable d (f :: s) ↔ f.Plain d ∧ (∀ g ∈ s.head?, f.Apart g) ∧ Readable d s := by
  constructor
  · intro readable
    have chain := List.isChain_cons.mp readable.apart
    exact ⟨readable.plain f List.mem_cons_self,chain.1,
      fun g member => readable.plain g (List.mem_cons_of_mem _ member),chain.2⟩
  · rintro ⟨first,apart,rest⟩
    refine ⟨?_,List.isChain_cons.mpr ⟨apart,rest.apart⟩⟩
    intro g member
    rcases List.mem_cons.mp member with same | later
    · exact same ▸ first
    · exact rest.plain g later

/-- Words part what stands before them from what stands behind. -/
theorem readable_around {d : Dialect} {t : String} {before after : Statement} :
    Readable d (before ++ .words t :: after) ↔
      Readable d before ∧ (t ≠ "" ∧ plain t.toList = true) ∧ Readable d after := by
  induction before with
  | nil => simp [readable_cons,readable_nil,Fragment.Plain,apart_words_left]
  | cons f before ih =>
    have nextApart : (∀ g ∈ (before ++ .words t :: after).head?, f.Apart g) ↔ ∀ g ∈ before.head?, f.Apart g := by
      cases before with
      | nil => simp [apart_words_right]
      | cons g before => simp
    rw [List.cons_append,readable_cons,readable_cons,ih,nextApart]
    tauto

theorem readable_words {d : Dialect} {t : String} {s : Statement} :
    Readable d (.words t :: s) ↔ (t ≠ "" ∧ plain t.toList = true) ∧ Readable d s := by
  simpa [readable_nil] using @readable_around d t [] s

theorem readable_name_words {d : Dialect} {n t : String} {s : Statement} :
    Readable d (.name n :: .words t :: s) ↔ (t ≠ "" ∧ plain t.toList = true) ∧ Readable d s := by
  rw [readable_cons,readable_words]
  simp [Fragment.Plain,apart_words_right]

theorem head_of_name {d : Dialect} {f : Fragment} (isPlain : f.Plain d)
    (quoted : (f.chars d.quoteChar).head? = some d.quoteChar) : ∃ n, f = .name n := by
  cases f with
  | name n => exact ⟨n,rfl⟩
  | literal v => cases d <;> simp [Fragment.chars,literal,Dialect.quoteChar] at quoted
  | words t =>
    have inside : d.quoteChar ∈ t.toList := List.mem_of_head? quoted
    have outside := List.all_eq_true.mp isPlain.2 _ inside
    cases d <;> simp [Dialect.quoteChar] at outside

theorem head_of_literal {d : Dialect} {f : Fragment} (isPlain : f.Plain d)
    (quoted : (f.chars d.quoteChar).head? = some '\'') : ∃ v, f = .literal v := by
  cases f with
  | literal v => exact ⟨v,rfl⟩
  | name n => cases d <;> simp [Fragment.chars,quotedName,Dialect.quoteChar] at quoted
  | words t =>
    have inside : '\'' ∈ t.toList := List.mem_of_head? quoted
    have outside := List.all_eq_true.mp isPlain.2 _ inside
    simp at outside

/-- The text of a readable statement begins as its first piece does. -/
theorem head_chars {d : Dialect} {s : Statement} (readable : Readable d s) (c : Char)
    (first : (s.chars d.quoteChar).head? = some c) :
    ∃ f ∈ s.head?, (f.chars d.quoteChar).head? = some c := by
  cases s with
  | nil => cases first
  | cons f s =>
    refine ⟨f,rfl,?_⟩
    have there : f.chars d.quoteChar ≠ [] := by
      cases f with
      | words t => simpa [Fragment.chars] using (readable.plain _ List.mem_cons_self).1
      | name n => simp [Fragment.chars,quotedName]
      | literal v => simp [Fragment.chars,literal]
    simpa [Statement.chars,List.head?_append,List.head?_eq_some_head there] using first

/-- A scanner finds the pieces of a readable statement in its text. -/
theorem scan?_chars {d : Dialect} {s : Statement} (readable : Readable d s) :
    scan? d (s.chars d.quoteChar) = some s.tokens := by
  induction s with
  | nil => simp [Statement.chars,Statement.tokens,scan?]
  | cons f s ih =>
    obtain ⟨isPlain,apart,rest⟩ := readable_cons.mp readable
    have tail := ih rest
    have split : Statement.chars d.quoteChar (f :: s) = f.chars d.quoteChar ++ Statement.chars d.quoteChar s := rfl
    rw [split]
    cases f with
    | words t =>
      rw [Fragment.chars,scan?_plain d isPlain.2,tail]
      rfl
    | name n =>
      have noQuote : (Statement.chars d.quoteChar s).head? ≠ some d.quoteChar := by
        intro quoted
        obtain ⟨g,next,begins⟩ := head_chars rest _ quoted
        obtain ⟨m,rfl⟩ := head_of_name (rest.plain g (List.mem_of_mem_head? next)) begins
        exact apart _ next
      rw [Fragment.chars,scan?_name d n _ noQuote,tail]
      rfl
    | literal v =>
      have noQuote : (Statement.chars d.quoteChar s).head? ≠ some '\'' := by
        intro quoted
        obtain ⟨g,next,begins⟩ := head_chars rest _ quoted
        obtain ⟨w,rfl⟩ := head_of_literal (rest.plain g (List.mem_of_mem_head? next)) begins
        exact apart _ next
      rw [Fragment.chars,scan?_literal isPlain v _ noQuote,tail]
      rfl

/-- Reads the text of a statement. -/
def scanText? (d : Dialect) (t : String) : Option (List Token) := scan? d t.toList

theorem scanText?_text {d : Dialect} {s : Statement} (readable : Readable d s) :
    scanText? d (s.text d.quoteChar) = some s.tokens := by
  rw [scanText?,Statement.text,String.toList_ofList]
  exact scan?_chars readable

end Sql

end PortableDdl
