import Mathlib.Data.List.Nodup
import PortableDdl.Json.Fields
import PortableDdl.Proofs.DocumentTree

/-!
# What is seen of a record

A reader of records looks at the values under the names it knows. So it does not
see in which order they stand, what else stands among them and whether something
is null or missing where both are as good. A list in the order of the names is
read as the record with these names.
-/

namespace PortableDdl.Json

/-- A member under another name is passed over. -/
theorem lookup_skip {ms : List (String × Value)} {n k : String} (other : n ≠ k) (v : Value) :
    ((k,v) :: ms).lookup n = ms.lookup n := by
  have distinct : (n == k) = false := by simpa using other
  rw [List.lookup_cons,distinct]

theorem lookup_ofMembers (ms : List (String × Value)) (n : String) :
    lookup (ms.map fun m => (some m.1,m.2)) n = ms.lookup n := by
  induction ms with
  | nil => rfl
  | cons m ms ih =>
    obtain ⟨k,v⟩ := m
    by_cases same : k = n
    · simp [lookup,same]
    · rw [lookup_skip (Ne.symm same)]
      simpa [lookup,same] using ih

theorem isReadable_ofMembers {ms : List (String × Value)} (distinct : (ms.map (·.1)).Nodup) (names : List String) :
    isReadable names (ms.map fun m => (some m.1,m.2)) = true := by
  have once : ∀ n, ms.countP (·.1 == n) ≤ 1 := by
    intro n
    simpa [List.count,List.countP_map,Function.comp_def] using List.nodup_iff_count_le_one.mp distinct n
  simpa [isReadable,List.countP_map,Function.comp_def] using fun n _ => once n

/-- The values of a record are found under their names. -/
theorem fields?_ofMembers {ms : List (String × Value)} (distinct : (ms.map (·.1)).Nodup) (names : List String)
    (least : Nat) : fields? names least (.ofMembers ms) = some fun n => ms.lookup n := by
  rw [Value.ofMembers,fields?,if_pos (isReadable_ofMembers distinct names),funext (lookup_ofMembers ms)]

theorem fields?_list {names : List String} {items : List Value} {least : Nat} (distinct : names.Nodup)
    (whole : items.length = names.length) (enough : least ≤ names.length) :
    fields? names least (.list items) = fields? names least (.ofMembers (names.zip items)) := by
  have keys : (names.zip items).map (·.1) = names := List.map_fst_zip (by omega)
  rw [fields?_ofMembers (keys.symm ▸ distinct),fields?,if_pos (by simp [whole,enough])]

/-- Documents that differ in their layout alone, for a reader that knows some
    names, takes null for nothing under some of them, and lets some lists stand
    for records. -/
inductive SameDocument (names optional : List String) (inOrder : List Value → Prop) : Value → Value → Prop
  /-- Members in another order. -/
  | reordered {ms ns : List Member} : ms.Perm ns → SameDocument names optional inOrder (.record ms) (.record ns)
  /-- One more member, under a name that is not known. -/
  | unknown {ms : List Member} {name : String} {v : Value} : name ∉ names → v.WellFormed →
      SameDocument names optional inOrder (.record ms) (.record ((some name,v) :: ms))
  /-- Null for what is missing. -/
  | null {ms : List Member} {name : String} : name ∈ optional → (∀ m ∈ ms, m.1 ≠ some name) →
      SameDocument names optional inOrder (.record ms) (.record ((some name,.null) :: ms))
  /-- A list in the order of the names. -/
  | positional {items : List Value} : inOrder items → items.length = names.length →
      SameDocument names optional inOrder (.list items) (.ofMembers (names.zip items))
  | symm {v w : Value} : SameDocument names optional inOrder v w → SameDocument names optional inOrder w v
  | trans {u v w : Value} : SameDocument names optional inOrder u v → SameDocument names optional inOrder v w →
      SameDocument names optional inOrder u w

section Layout

variable {names optional : List String} {inOrder : List Value → Prop}

theorem wellFormed_iff_of_same {v w : Value} (same : SameDocument names optional inOrder v w) :
    v.WellFormed ↔ w.WellFormed := by
  induction same with
  | reordered perm => simp only [wellFormed_record,perm.mem_iff]
  | unknown unknown valid => simp [wellFormed_record,valid]
  | null => simp [wellFormed_record]
  | @positional items _ whole =>
    have values : (names.zip items).map (·.2) = items := List.map_snd_zip (by omega)
    rw [wellFormed_list,wellFormed_ofMembers]
    conv_lhs => rw [← values]
    exact List.forall_mem_map
  | symm _ ih => exact ih.symm
  | trans _ _ before behind => exact before.trans behind

/-- Whether two rows of fields are as good as each other under a name. -/
def Alike (optional : List String) (field other : String → Option Value) (n : String) : Prop :=
  if n ∈ optional then orNull (field n) = orNull (other n) else field n = other n

/-- A reader of records that looks at nothing but the values under the known
    names. -/
structure ByFields {α : Type} (names optional : List String) (read : Value → Option α) : Prop where
  unreadable : ∀ {ms : List Member}, isReadable names ms = false → read (.record ms) = none
  alike : ∀ {ms ns : List Member}, isReadable names ms = true → isReadable names ns = true →
    (∀ n ∈ names, Alike optional (lookup ms) (lookup ns) n) → read (.record ms) = read (.record ns)

theorem alike_of_eq {field other : String → Option Value} {n : String} (same : field n = other n) :
    Alike optional field other n := by
  rw [Alike,same]
  split <;> rfl

/-- The first of what there is at most one of is found in any order. -/
theorem find?_of_perm {α : Type} {p : α → Bool} {xs ys : List α} (perm : xs.Perm ys) (few : xs.countP p ≤ 1) :
    xs.find? p = ys.find? p := by
  have filtered := perm.filter p
  rw [List.countP_eq_length_filter] at few
  rw [← List.head?_filter,← List.head?_filter]
  cases found : xs.filter p with
  | nil =>
    rw [found] at filtered
    rw [filtered.symm.eq_nil]
  | cons x rest =>
    rw [found,List.length_cons] at few
    obtain rfl : rest = [] := List.length_eq_zero_iff.mp (by omega)
    rw [found] at filtered
    rw [List.perm_singleton.mp filtered.symm]

theorem isReadable_of_perm {ms ns : List Member} (perm : ms.Perm ns) : isReadable names ms = isReadable names ns := by
  simp only [isReadable,perm.all_eq,perm.countP_eq]

theorem isReadable_iff {ms : List Member} :
    isReadable names ms = true ↔
      (∀ m ∈ ms, m.1.isSome = true) ∧ ∀ n ∈ names, ms.countP (·.1 == some n) ≤ 1 := by
  simp [isReadable]

/-- One more member makes no difference if its name is not known or new. -/
theorem isReadable_cons {ms : List Member} {name : String} (fresh : name ∈ names → ∀ m ∈ ms, m.1 ≠ some name) (v : Value) :
    isReadable names ((some name,v) :: ms) = isReadable names ms := by
  rw [Bool.eq_iff_iff,isReadable_iff,isReadable_iff,List.forall_mem_cons]
  simp only [Option.isSome_some,true_and]
  refine and_congr_right fun _ => forall₂_congr fun n known => ?_
  by_cases same : n = name
  · subst same
    have absent : ms.countP (·.1 == some n) = 0 := by simpa [List.countP_eq_zero] using fresh known
    simp [absent]
  · simp [Ne.symm same]

theorem lookup_other {ms : List Member} {name n : String} (other : n ≠ name) (v : Value) :
    lookup ((some name,v) :: ms) n = lookup ms n := by
  simp [lookup,Ne.symm other]

theorem lookup_absent {ms : List Member} {name : String} (absent : ∀ m ∈ ms, m.1 ≠ some name) : lookup ms name = none := by
  simpa [lookup] using absent

variable {α : Type} {read : Value → Option α}

theorem read_of_alike (byFields : ByFields names optional read) {ms ns : List Member}
    (readable : isReadable names ms = isReadable names ns)
    (alike : isReadable names ms = true → ∀ n ∈ names, Alike optional (lookup ms) (lookup ns) n) :
    read (.record ms) = read (.record ns) := by
  cases good : isReadable names ms with
  | true => exact byFields.alike good (readable ▸ good) (alike good)
  | false => rw [byFields.unreadable good,byFields.unreadable (readable ▸ good)]

/-- Documents that differ in their layout alone are read as the same. -/
theorem read_of_same (byFields : ByFields names optional read)
    (byPosition : ∀ items, inOrder items → items.length = names.length →
      read (.list items) = read (.ofMembers (names.zip items)))
    {v w : Value} (same : SameDocument names optional inOrder v w) : read v = read w := by
  induction same with
  | reordered perm =>
    -- Known names stand at most once in a readable record, so none is hidden by another.
    refine read_of_alike byFields (isReadable_of_perm perm) fun readable n known => alike_of_eq ?_
    rw [lookup,lookup,find?_of_perm perm ((isReadable_iff.mp readable).2 n known)]
  | @unknown ms name v unknown =>
    refine read_of_alike byFields (isReadable_cons (fun known => absurd known unknown) v).symm ?_
    intro _ n known
    have other : n ≠ name := by
      rintro rfl
      exact unknown known
    exact alike_of_eq (lookup_other other v).symm
  | @null ms name omissible absent =>
    refine read_of_alike byFields (isReadable_cons (fun _ => absent) .null).symm fun _ n _ => ?_
    by_cases same : n = name
    · subst same
      rw [Alike,if_pos omissible,lookup_absent absent]
      simp [orNull,lookup]
    · exact alike_of_eq (lookup_other same .null).symm
  | positional ordered whole => exact byPosition _ ordered whole
  | symm _ ih => exact ih.symm
  | trans _ _ before behind => exact before.trans behind

/-- A record with a known name that stands twice is not read. -/
theorem read_of_repeated (byFields : ByFields names optional read) {ms : List Member} {n : String} (known : n ∈ names)
    (repeated : 2 ≤ ms.countP (·.1 == some n)) : read (.record ms) = none := by
  refine byFields.unreadable (Bool.eq_false_iff.mpr fun readable => ?_)
  have once := (isReadable_iff.mp readable).2 n known
  omega

end Layout

end PortableDdl.Json
