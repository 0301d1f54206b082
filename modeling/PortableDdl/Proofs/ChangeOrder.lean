import Mathlib.Data.List.Sort
import PortableDdl.Proofs.BuiltDefinition

/-!
# The order of changes

A change touches one part of a definition and no other. Changes of different parts
can therefore be made in any order, and of those of one part only the last one
counts that is taken. The text of a definition lists its parts in an order of its
own, in which a primary key and a unique column have the same place.
-/

namespace PortableDdl

/-- The part of a definition that a change is about. -/
inductive ColumnPart where
  | suffix
  | limit
  | defaultValue
  | notNull
  | primaryKey
  | unique
  | check
deriving DecidableEq, Repr

namespace ColumnChange

def part : ColumnChange → ColumnPart
  | .suffix _ => .suffix
  | .limit _ => .limit
  | .defaultValue _ => .defaultValue
  | .notNull => .notNull
  | .primaryKey => .primaryKey
  | .unique => .unique
  | .check _ => .check

def suffix? : ColumnChange → Option String
  | .suffix s => some s
  | _ => none

def limit? : ColumnChange → Option Limit
  | .limit l => some l
  | _ => none

def defaultValue? : ColumnChange → Option String
  | .defaultValue v => some v
  | _ => none

def check? : ColumnChange → Option String
  | .check c => some c
  | _ => none

/-- Whether two sequences make the same changes of every part, in the same order. -/
def SamePartwise (xs ys : List ColumnChange) : Prop :=
  ∀ p, xs.filter (·.part = p) = ys.filter (·.part = p)

/-- The last thing of a kind that some changes bring. -/
def last? {α : Type} (brought : ColumnChange → Option α) (xs : List ColumnChange) : Option α :=
  (xs.filterMap brought).getLast?

variable {α : Type} {brought : ColumnChange → Option α} {p : ColumnPart} {xs ys : List ColumnChange}

theorem last?_concat (xs : List ColumnChange) (x : ColumnChange) :
    last? brought (xs ++ [x]) = (brought x).or (last? brought xs) := by
  cases new : brought x <;> simp [last?,new]

/-- What changes of one part bring is not changed by leaving out the others. -/
theorem last?_filter (own : ∀ x, x.part ≠ p → brought x = none) (xs : List ColumnChange) :
    last? brought (xs.filter (·.part = p)) = last? brought xs := by
  rw [last?,last?,List.filterMap_filter]
  congr 1
  refine List.filterMap_congr fun x _ => ?_
  by_cases same : x.part = p
  · simp [same]
  · simp [same,own x same]

theorem last?_samePartwise (own : ∀ x, x.part ≠ p → brought x = none) (same : SamePartwise xs ys) :
    last? brought xs = last? brought ys := by
  rw [← last?_filter own xs,same p,last?_filter own ys]

theorem contains_samePartwise (same : SamePartwise xs ys) (x : ColumnChange) : xs.contains x = ys.contains x := by
  have member : ∀ zs : List ColumnChange, x ∈ zs ↔ x ∈ zs.filter (·.part = x.part) := by simp
  rw [Bool.eq_iff_iff,List.contains_iff_mem,List.contains_iff_mem,member xs,member ys,same x.part]

end ColumnChange

namespace ColumnDefinition

open ColumnChange

/-- The changes that are taken, each judged by the definition that the ones
    before it have made. -/
def taken (d : ColumnDefinition) : List ColumnChange → List ColumnChange
  | [] => []
  | x :: xs =>
    match d.change x with
    | .ok next => x :: next.taken xs
    | .error _ => d.taken xs

/-- A definition with all that some changes bring last. -/
def withLast (d : ColumnDefinition) (xs : List ColumnChange) : ColumnDefinition :=
  { d with
    suffix := (last? suffix? xs).or d.suffix
    limit := (last? limit? xs).or d.limit
    defaultValue := (last? defaultValue? xs).or d.defaultValue
    notNull := d.notNull || xs.contains .notNull
    primaryKey := d.primaryKey || xs.contains .primaryKey
    unique := d.unique || xs.contains .unique
    check := (last? check? xs).or d.check }

variable {d : ColumnDefinition} {xs ys : List ColumnChange}

theorem refusal?_holding (d : ColumnDefinition) (x : ColumnChange) :
    (d.holding x).capabilities.refusal? (d.holding x).baseType = d.capabilities.refusal? d.baseType := by
  cases x <;> rfl

/-- Since the judgement is always that of the first definition, the changes that
    are taken can be picked beforehand. -/
theorem taken_eq_filter (d : ColumnDefinition) (xs : List ColumnChange) :
    d.taken xs = xs.filter fun x => (d.capabilities.refusal? d.baseType x).isNone := by
  induction xs generalizing d with
  | nil => rfl
  | cons x xs ih =>
    rw [taken,change_eq,List.filter_cons]
    cases refused : d.capabilities.refusal? d.baseType x with
    | none => simp [ih,refusal?_holding]
    | some e => simp [ih]

theorem run_eq_foldl (d : ColumnDefinition) (xs : List ColumnChange) : d.run xs = (d.taken xs).foldl holding d := by
  induction xs generalizing d with
  | nil => rfl
  | cons x xs ih =>
    have step : d.run (x :: xs) = (d.changeOrKeep x).run xs := rfl
    rw [step,changeOrKeep,taken,change_eq]
    cases d.capabilities.refusal? d.baseType x with
    | none => exact ih (d.holding x)
    | some e => exact ih d

/-- One more change replaces what it is about and keeps everything else. -/
theorem withLast_concat (d : ColumnDefinition) (xs : List ColumnChange) (x : ColumnChange) :
    d.withLast (xs ++ [x]) = (d.withLast xs).holding x := by
  cases x <;> simp [withLast,holding,last?_concat,suffix?,limit?,defaultValue?,check?]

theorem foldl_holding (d : ColumnDefinition) (xs : List ColumnChange) : xs.foldl holding d = d.withLast xs := by
  induction xs using List.reverseRecOn with
  | nil => simp [withLast,last?]
  | append_singleton xs x ih => rw [List.foldl_append,ih,withLast_concat]; rfl

theorem run_eq_withLast (d : ColumnDefinition) (xs : List ColumnChange) : d.run xs = d.withLast (d.taken xs) := by
  rw [run_eq_foldl,foldl_holding]

theorem baseType_run (d : ColumnDefinition) (xs : List ColumnChange) : (d.run xs).baseType = d.baseType := by
  rw [run_eq_withLast,withLast]

theorem capabilities_run (d : ColumnDefinition) (xs : List ColumnChange) :
    (d.run xs).capabilities = d.capabilities := by
  rw [run_eq_withLast,withLast]

theorem samePartwise_taken (same : SamePartwise xs ys) : SamePartwise (d.taken xs) (d.taken ys) := by
  intro p
  rw [taken_eq_filter,taken_eq_filter,List.filter_comm,same p,List.filter_comm]

theorem withLast_samePartwise (same : SamePartwise xs ys) : d.withLast xs = d.withLast ys := by
  have suffix : last? suffix? xs = last? suffix? ys :=
    last?_samePartwise (p := .suffix) (by rintro ⟨⟩ <;> simp [part,suffix?]) same
  have limit : last? limit? xs = last? limit? ys :=
    last?_samePartwise (p := .limit) (by rintro ⟨⟩ <;> simp [part,limit?]) same
  have default : last? defaultValue? xs = last? defaultValue? ys :=
    last?_samePartwise (p := .defaultValue) (by rintro ⟨⟩ <;> simp [part,defaultValue?]) same
  have check : last? check? xs = last? check? ys :=
    last?_samePartwise (p := .check) (by rintro ⟨⟩ <;> simp [part,check?]) same
  simp only [withLast,suffix,limit,default,check,contains_samePartwise same]

/-- What is never refused is brought whether or not it is asked what is taken. -/
theorem last?_taken {brought : ColumnChange → Option String}
    (kept : ∀ x, d.capabilities.refusal? d.baseType x ≠ none → brought x = none) :
    last? brought (d.taken xs) = last? brought xs := by
  rw [taken_eq_filter,last?,last?,List.filterMap_filter]
  congr 1
  refine List.filterMap_congr fun x _ => ?_
  cases refused : d.capabilities.refusal? d.baseType x with
  | none => rfl
  | some e => simp [kept x (by simp [refused])]

theorem contains_taken {x : ColumnChange} (kept : d.capabilities.refusal? d.baseType x = none) :
    (d.taken xs).contains x = xs.contains x := by
  rw [Bool.eq_iff_iff,List.contains_iff_mem,List.contains_iff_mem,taken_eq_filter,List.mem_filter,kept]
  simp

/-! ## The parts of the text -/

/-- A part of the text of a column. -/
inductive Clause where
  | name (text : String)
  | type (base : String) (limit : Option Limit) (suffix : Option String)
  | defaultValue (value : String)
  | notNull
  | primaryKey
  | unique
  | check (condition : String)
deriving DecidableEq, Repr

/-- The numbers of a limit in decimal, with the parentheses around them. -/
def limitText : Option Limit → String
  | none => ""
  | some (.length n) => "(" ++ n.toNat.repr ++ ")"
  | some (.precision p none) => "(" ++ p.toNat.repr ++ ")"
  | some (.precision p (some s)) => "(" ++ p.toNat.repr ++ ", " ++ s.toNat.repr ++ ")"

def Clause.text : Clause → String
  | .name n => n
  | .type base limit suffix => base ++ limitText limit ++ suffix.elim "" (" " ++ ·)
  | .defaultValue v => "DEFAULT " ++ v
  | .notNull => "NOT NULL"
  | .primaryKey => "PRIMARY KEY"
  | .unique => "UNIQUE"
  | .check c => "CHECK (" ++ c ++ ")"

/-- The place of a part among the others. Parts of one place exclude each other. -/
def Clause.place : Clause → Nat
  | .name _ => 0
  | .type _ _ _ => 1
  | .defaultValue _ => 2
  | .notNull => 3
  | .primaryKey | .unique => 4
  | .check _ => 5

/-- The parts that a definition has under a name. -/
inductive Has (d : ColumnDefinition) (name : String) : Clause → Prop
  | name : Has d name (.name name)
  | type : Has d name (.type d.baseType d.limit d.suffix)
  | defaultValue {v : String} : d.defaultValue = some v → Has d name (.defaultValue v)
  | notNull : d.notNull = true → Has d name .notNull
  | primaryKey : d.primaryKey = true → Has d name .primaryKey
  | unique : d.unique = true → d.primaryKey = false → Has d name .unique
  | check {c : String} : d.check = some c → Has d name (.check c)

/-- Whether parts are all those of a definition, from the first place to the last. -/
structure Lists (d : ColumnDefinition) (name : String) (parts : List Clause) : Prop where
  ordered : parts.Pairwise (·.place < ·.place)
  complete : ∀ part, part ∈ parts ↔ d.Has name part

/-- The clauses of a definition behind its type. -/
def tail (d : ColumnDefinition) : List Clause :=
  (d.defaultValue.map .defaultValue).toList ++ (if d.notNull then [.notNull] else []) ++
  (if d.primaryKey then [.primaryKey] else []) ++ (if d.isUnique then [.unique] else []) ++
  (d.check.map .check).toList

theorem clauses_eq_tail (d : ColumnDefinition) : d.clauses = d.tail.map Clause.text := by
  have value : (d.defaultValue.map Clause.defaultValue).toList.map Clause.text =
      (d.defaultValue.map ("DEFAULT " ++ ·)).toList := by cases d.defaultValue <;> rfl
  have check : (d.check.map Clause.check).toList.map Clause.text =
      (d.check.map fun condition => "CHECK (" ++ condition ++ ")").toList := by cases d.check <;> rfl
  have flag : ∀ (raised : Bool) (part : Clause),
      (if raised then [part] else []).map Clause.text = if raised then [part.text] else [] := by
    intro raised part
    cases raised <;> rfl
  simp only [tail,List.map_append,value,check,flag]
  rfl

theorem places_tail (d : ColumnDefinition) : (d.tail.map Clause.place).Sublist [2,3,4,5] := by
  have defaultValue : ((d.defaultValue.map Clause.defaultValue).toList.map Clause.place).Sublist [2] := by
    cases d.defaultValue <;> simp [Clause.place]
  have notNull : ((if d.notNull then [Clause.notNull] else []).map Clause.place).Sublist [3] := by
    cases d.notNull <;> simp [Clause.place]
  have key : (((if d.primaryKey then [Clause.primaryKey] else []) ++ if d.isUnique then [Clause.unique] else []).map
      Clause.place).Sublist [4] := by
    unfold isUnique
    cases d.primaryKey <;> cases d.unique <;> simp [Clause.place]
  have check : ((d.check.map Clause.check).toList.map Clause.place).Sublist [5] := by
    cases d.check <;> simp [Clause.place]
  simpa [tail] using ((defaultValue.append notNull).append key).append check

theorem lists_tail (d : ColumnDefinition) (name : String) :
    d.Lists name (.name name :: .type d.baseType d.limit d.suffix :: d.tail) := by
  constructor
  · have places : ([0,1] ++ d.tail.map Clause.place).Pairwise (· < ·) :=
      List.Pairwise.sublist (d.places_tail.append_left [0,1]) (by decide)
    exact List.pairwise_map.mp places
  · intro part
    constructor
    · intro listed
      cases part with
      | name n =>
        obtain rfl : n = name := by simpa [tail] using listed
        exact .name
      | type base limit suffix =>
        obtain ⟨rfl,rfl,rfl⟩ : base = d.baseType ∧ limit = d.limit ∧ suffix = d.suffix := by
          simpa [tail] using listed
        exact .type
      | defaultValue v => exact .defaultValue (by simpa [tail] using listed)
      | notNull => exact .notNull (by simpa [tail] using listed)
      | primaryKey => exact .primaryKey (by simpa [tail] using listed)
      | unique =>
        obtain ⟨unique,noKey⟩ : d.unique = true ∧ d.primaryKey = false := by
          simpa [tail,isUnique] using listed
        exact .unique unique noKey
      | check c => exact .check (by simpa [tail] using listed)
    · intro has
      cases has with
      | name => simp
      | type => simp
      | defaultValue said => simp [tail,said]
      | notNull said => simp [tail,said]
      | primaryKey said => simp [tail,said]
      | unique said noKey => simp [tail,isUnique,said,noKey]
      | check said => simp [tail,said]

theorem limitText_eq (limit : Option Limit) : limitText limit = limit.elim "" Limit.sql := by
  rcases limit with _ | n | ⟨p,_ | s⟩ <;> rfl

theorem typeText_eq (d : ColumnDefinition) :
    d.typeText = if d.lacksLimit then .error (.missingRequiredLimit d.baseType)
      else .ok (Clause.type d.baseType d.limit d.suffix).text := by
  rw [typeText,Clause.text,limitText_eq]

/-- The text of a definition is made of its parts, unless a limit is missing. -/
theorem sql_eq (d : ColumnDefinition) (name : String) :
    ∃ parts, d.Lists name parts ∧
      d.sql name = if d.lacksLimit then .error (.missingRequiredLimit d.baseType)
        else .ok (" ".intercalate (parts.map Clause.text)) := by
  refine ⟨_,d.lists_tail name,?_⟩
  rw [sql,text,typeText_eq]
  split
  · rfl
  · simp [Except.map,clauses_eq_tail,String.intercalate_cons_cons,Clause.text]

/-- Sequences that make the same changes of each part, in the same order, end in
    the same definition, however the changes of different parts are mixed. It holds
    the last of each that was brought and taken, or else what there was at the
    start, and a flag once it has been raised. Its text lists its parts in a fixed
    order, a primary key or else a unique column, and there is none exactly if a
    limit is missing that the type needs. -/
theorem changes_of_parts_commute (d : ColumnDefinition) (xs : List ColumnChange) :
    (∀ ys, SamePartwise xs ys → d.run xs = d.run ys ∧ (d.run xs).typeText = (d.run ys).typeText ∧
      ∀ name, (d.run xs).sql name = (d.run ys).sql name) ∧
    d.run xs =
      { baseType := d.baseType
        capabilities := d.capabilities
        suffix := (last? suffix? xs).or d.suffix
        limit := (last? limit? (d.taken xs)).or d.limit
        defaultValue := (last? defaultValue? (d.taken xs)).or d.defaultValue
        notNull := d.notNull || xs.contains .notNull
        primaryKey := d.primaryKey || xs.contains .primaryKey
        unique := d.unique || xs.contains .unique
        check := (last? check? xs).or d.check } ∧
    ∀ name, ∃ parts, (d.run xs).Lists name parts ∧ ¬ (.primaryKey ∈ parts ∧ .unique ∈ parts) ∧
      (d.run xs).sql name = if (d.run xs).limit = none ∧ d.capabilities.limit = .required
        then .error (.missingRequiredLimit d.baseType) else .ok (" ".intercalate (parts.map Clause.text)) := by
  refine ⟨?_,?_,?_⟩
  · intro ys same
    have equal : d.run xs = d.run ys := by
      rw [run_eq_withLast,run_eq_withLast,withLast_samePartwise (samePartwise_taken same)]
    exact ⟨equal,by rw [equal],fun name => by rw [equal]⟩
  · have suffix : last? suffix? (d.taken xs) = last? suffix? xs :=
      last?_taken (by rintro ⟨⟩ <;> simp [Capabilities.refusal?,suffix?])
    have check : last? check? (d.taken xs) = last? check? xs :=
      last?_taken (by rintro ⟨⟩ <;> simp [Capabilities.refusal?,check?])
    rw [run_eq_withLast,withLast,suffix,check,contains_taken rfl,contains_taken rfl,contains_taken rfl]
  · intro name
    obtain ⟨parts,lists,text⟩ := sql_eq (d.run xs) name
    refine ⟨parts,lists,?_,?_⟩
    · rintro ⟨key,unique⟩
      cases (lists.complete _).mp key with
      | primaryKey isKey =>
        cases (lists.complete _).mp unique with
        | unique _ noKey => simp [isKey] at noKey
    · rw [text,baseType_run]
      simp [lacksLimit,capabilities_run]

/-- Six changes of which the type refuses one, and the same ones in another order.
    The limit that is taken stands behind the type. -/
theorem changes_of_parts_commute_of_key :
    let d := ofType "RAW" (Capabilities.scalar.withLength .required)
    let xs := [.limit (.length 16),.unique,.limit (.length 0),.defaultValue "NULL",.primaryKey,.check "k > 0"]
    let ys := [.primaryKey,.check "k > 0",.limit (.length 16),.defaultValue "NULL",.limit (.length 0),.unique]
    SamePartwise xs ys ∧ d.run xs = d.run ys ∧ d.taken xs ≠ xs ∧
      (d.run xs).sql "k" = .ok "k RAW(16) DEFAULT NULL PRIMARY KEY CHECK (k > 0)" := by
  intro d xs ys
  have same : SamePartwise xs ys := by
    intro p
    cases p <;> decide
  obtain ⟨equal,_,text⟩ := (changes_of_parts_commute d xs).1 ys same
  exact ⟨same,equal,by decide,(text "k").trans (by decide)⟩

end ColumnDefinition

end PortableDdl
