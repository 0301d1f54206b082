import Mathlib.Data.Nat.Bitwise
import PortableDdl.Proofs.QuotedNames
import PortableDdl.Proofs.WordForms

/-!
# The stored case of a name

Whatever a character becomes in upper or in lower case is left as it is by the same
conversion, so that a name in its stored case is stored as it stands. The form of a
sigma depends on its neighbours, but not on the case of their letters.
-/

namespace PortableDdl

namespace Text

/-- A set of numbers, each of them a bit. Tables of more than a thousand code points
    are compared in one step by their bits. -/
def bitSet (ns : List Nat) : Nat := ns.foldr (fun n bits => 2 ^ n ||| bits) 0

theorem testBit_bitSet {ns : List Nat} {n : Nat} : (bitSet ns).testBit n = true ↔ n ∈ ns := by
  induction ns with
  | nil => simp [bitSet]
  | cons m ns ih =>
    rw [bitSet,List.foldr_cons,← bitSet,Nat.testBit_or,Bool.or_eq_true,ih,Nat.testBit_two_pow,decide_eq_true_eq,
      List.mem_cons,eq_comm]

theorem not_mem_of_bitSet {ns ms : List Nat} (apart : bitSet ns &&& bitSet ms = 0) {n : Nat} (member : n ∈ ms) :
    n ∉ ns := by
  intro both
  have bit : (bitSet ns &&& bitSet ms).testBit n = true := by
    rw [Nat.testBit_and,testBit_bitSet.mpr both,testBit_bitSet.mpr member]
    rfl
  rw [apart,Nat.zero_testBit] at bit
  cases bit

/-- The code points of a run. -/
def CaseRun.sources (r : CaseRun) : List Nat := (List.range r.count).map fun k => r.first + k * r.step

/-- The code points that those of a run are mapped to. -/
def CaseRun.targets (r : CaseRun) : List Nat := (List.range r.count).map fun k => r.target + k * r.step

/-- The code points that a pair of tables maps. -/
def sources (runs : List CaseRun) (sequences : List (Nat × List Nat)) : List Nat :=
  runs.flatMap CaseRun.sources ++ sequences.map (·.1)

/-- The code points that others are mapped to. -/
def targets (runs : List CaseRun) (sequences : List (Nat × List Nat)) : List Nat :=
  runs.flatMap CaseRun.targets ++ sequences.flatMap (·.2)

theorem CaseRun.mem_of_image? {r : CaseRun} {n m : Nat} (image : r.image? n = some m) :
    n ∈ r.sources ∧ m ∈ r.targets := by
  simp only [image?,Option.ite_none_right_eq_some,Bool.and_eq_true,decide_eq_true_eq,beq_iff_eq,Option.some.injEq] at image
  obtain ⟨⟨⟨low,high⟩,divides⟩,rfl⟩ := image
  -- The place in the run is the number of steps that lead to the code point.
  have steps : (n - r.first) / r.step * r.step = n - r.first := Nat.div_mul_cancel (Nat.dvd_of_mod_eq_zero divides)
  have inside : (n - r.first) / r.step < r.count := by
    refine Nat.lt_of_mul_lt_mul_right (a := r.step) ?_
    omega
  refine ⟨List.mem_map.mpr ⟨_,List.mem_range.mpr inside,?_⟩,List.mem_map.mpr ⟨_,List.mem_range.mpr inside,?_⟩⟩
  · omega
  · omega

variable {runs : List CaseRun} {sequences : List (Nat × List Nat)} {n m : Nat}

theorem mapCase_of_not_mem (unmapped : n ∉ sources runs sequences) : mapCase runs sequences n = [n] := by
  simp only [sources,List.mem_append,List.mem_flatMap,List.mem_map,not_or,not_exists,not_and] at unmapped
  have noSequence : sequences.lookup n = none := by
    refine List.lookup_eq_none_iff.mpr fun entry member => ?_
    simpa using fun same : n = entry.1 => unmapped.2 entry member same.symm
  have noRun : runs.findSome? (·.image? n) = none := by
    refine List.findSome?_eq_none_iff.mpr fun r member => ?_
    by_contra image
    obtain ⟨k,found⟩ := Option.ne_none_iff_exists'.mp image
    exact unmapped.1 r member (CaseRun.mem_of_image? found).1
  rw [mapCase,noSequence,noRun]

/-- A code point is mapped to those in the tables or left as it is. -/
theorem mem_mapCase (member : m ∈ mapCase runs sequences n) :
    m ∈ targets runs sequences ∨ m = n ∧ mapCase runs sequences n = [n] := by
  rw [mapCase] at member ⊢
  cases sequence : sequences.lookup n with
  | some long =>
    rw [sequence] at member
    obtain ⟨before,after,split,_⟩ := List.lookup_eq_some_iff.mp sequence
    have listed : (n,long) ∈ sequences := by simp [split]
    exact .inl (List.mem_append_right _ (List.mem_flatMap.mpr ⟨_,listed,member⟩))
  | none =>
    cases run : runs.findSome? (·.image? n) with
    | some k =>
      rw [sequence,run] at member
      obtain ⟨r,listed,image⟩ := List.exists_of_findSome?_eq_some run
      rw [List.mem_singleton.mp member]
      exact .inl (List.mem_append_left _ (List.mem_flatMap.mpr ⟨r,listed,(CaseRun.mem_of_image? image).2⟩))
    | none =>
      rw [sequence,run] at member
      exact .inr ⟨List.mem_singleton.mp member,rfl⟩

/-- Whether nothing is mapped that something else is mapped to. Zero stands for what
    is no code point. -/
structure Settled (runs : List CaseRun) (sequences : List (Nat × List Nat)) : Prop where
  apart : bitSet (sources runs sequences) &&& bitSet (targets runs sequences) = 0
  zero : mapCase runs sequences 0 = [0]

theorem Settled.mapCase (settled : Settled runs sequences) (member : m ∈ mapCase runs sequences n) :
    Text.mapCase runs sequences m = [m] := by
  rcases mem_mapCase member with target | ⟨rfl,same⟩
  · exact mapCase_of_not_mem (not_mem_of_bitSet settled.apart target)
  · exact same

theorem toNat_ofNat (valid : n.isValidChar) : (Char.ofNat n).toNat = n := by
  rw [Char.ofNat,dif_pos valid]
  rfl

theorem ofNat_of_not_valid (invalid : ¬n.isValidChar) : Char.ofNat n = Char.ofNat 0 := by
  rw [Char.ofNat,dif_neg invalid]
  rfl

theorem Settled.map_ofNat (settled : Settled runs sequences) {d : Char}
    (member : d ∈ (Text.mapCase runs sequences n).map Char.ofNat) :
    (Text.mapCase runs sequences d.toNat).map Char.ofNat = [d] := by
  obtain ⟨m,reached,rfl⟩ := List.mem_map.mp member
  by_cases valid : m.isValidChar
  · rw [toNat_ofNat valid,settled.mapCase reached]
    rfl
  · rw [ofNat_of_not_valid valid,toNat_ofNat (.inl (by decide)),settled.zero]
    rfl

theorem settled_upper : Settled upperRuns upperSequences := ⟨by decide +kernel,by decide +kernel⟩

theorem settled_lower : Settled lowerRuns lowerSequences := ⟨by decide +kernel,by decide +kernel⟩

theorem upperChar_settled {c d : Char} (member : d ∈ upperChar c) : upperChar d = [d] := settled_upper.map_ofNat member

theorem lowerChar_settled {c d : Char} (member : d ∈ lowerChar c) : lowerChar d = [d] := settled_lower.map_ofNat member

theorem upperChars_of_settled {cs : List Char} (settled : ∀ c ∈ cs, upperChar c = [c]) : upperChars cs = cs := by
  rw [upperChars,List.flatMap_congr settled]
  exact List.flatMap_singleton' cs

theorem upperChars_upperChars (cs : List Char) : upperChars (upperChars cs) = upperChars cs := by
  refine upperChars_of_settled fun d member => ?_
  obtain ⟨c,_,becomes⟩ := List.mem_flatMap.mp member
  exact upperChar_settled becomes

/-- Characters that stay as they are hold no capital sigma, so that their places do
    not matter. -/
theorem lowerCharsAfter_of_settled {before cs : List Char} (settled : ∀ c ∈ cs, lowerChar c = [c]) :
    lowerCharsAfter before cs = cs := by
  induction cs generalizing before with
  | nil => rfl
  | cons c cs ih =>
    obtain ⟨first,others⟩ := List.forall_mem_cons.mp settled
    have noSigma : c ≠ 'Σ' := by
      rintro rfl
      exact absurd first (by decide +kernel)
    rw [lowerCharsAfter,if_neg noSigma,first,ih others]
    rfl

theorem settled_of_mem_lowerCharsAfter {before cs : List Char} {d : Char} (member : d ∈ lowerCharsAfter before cs) :
    lowerChar d = [d] := by
  induction cs generalizing before with
  | nil => cases member
  | cons c cs ih =>
    rw [lowerCharsAfter] at member
    rcases List.mem_append.mp member with here | later
    · by_cases sigma : c = 'Σ'
      · rw [if_pos sigma,List.mem_singleton] at here
        rw [here]
        cases endsWord before cs <;> decide +kernel
      · rw [if_neg sigma] at here
        exact lowerChar_settled here
    · exact ih later

theorem lowerChars_lowerChars (cs : List Char) : lowerChars (lowerChars cs) = lowerChars cs :=
  lowerCharsAfter_of_settled fun _ member => settled_of_mem_lowerCharsAfter member

/-! ## The case of ASCII letters -/

variable {c d : Char} {cs ds : List Char}

theorem eq_of_sameLetter {α : Type} {f : Char → α} (letters : ∀ p ∈ letterCases, f p.1 = f p.2) (same : SameLetter c d) :
    f c = f d := by
  rcases same with rfl | listed | listed
  · rfl
  · exact letters _ listed
  · exact (letters _ listed).symm

theorem upperChar_letterCases : ∀ p ∈ letterCases, upperChar p.1 = [p.2] := by decide +kernel

theorem lowerChar_letterCases : ∀ p ∈ letterCases, lowerChar p.2 = [p.1] := by decide +kernel

theorem upperChar_sameLetter (same : SameLetter c d) : upperChar c = upperChar d := by
  refine eq_of_sameLetter (fun p listed => ?_) same
  have becomes := upperChar_letterCases p listed
  have stays : upperChar p.2 = [p.2] := upperChar_settled (c := p.1) (by simp [becomes])
  rw [becomes,stays]

theorem lowerChar_sameLetter (same : SameLetter c d) : lowerChar c = lowerChar d := by
  refine eq_of_sameLetter (fun p listed => ?_) same
  have becomes := lowerChar_letterCases p listed
  have stays : lowerChar p.1 = [p.1] := lowerChar_settled (c := p.2) (by simp [becomes])
  rw [becomes,stays]

theorem isCased_letterCases : ∀ p ∈ letterCases, isCased p.1 = true ∧ isCased p.2 = true := by decide +kernel

theorem isCased_sameLetter (same : SameLetter c d) : isCased c = isCased d := by
  refine eq_of_sameLetter (fun p listed => ?_) same
  obtain ⟨lower,upper⟩ := isCased_letterCases p listed
  rw [lower,upper]

theorem toNat_letterCases :
    ∀ p ∈ letterCases, (97 ≤ p.1.toNat ∧ p.1.toNat ≤ 122) ∧ (65 ≤ p.2.toNat ∧ p.2.toNat ≤ 90) := by decide

theorem contains_eq_false {rs : Ranges} {low high : Nat} (outside : ∀ r ∈ rs, r.2 < low ∨ high < r.1)
    (inside : low ≤ n ∧ n ≤ high) : rs.contains n = false := by
  refine List.any_eq_false.mpr fun r member => ?_
  have apart := outside r member
  simp only [Bool.and_eq_true,decide_eq_true_eq]
  omega

theorem isCaseIgnorable_sameLetter (same : SameLetter c d) : isCaseIgnorable c = isCaseIgnorable d := by
  refine eq_of_sameLetter (fun p listed => ?_) same
  obtain ⟨lower,upper⟩ := toNat_letterCases p listed
  have lowerOut : ∀ r ∈ caseIgnorableRanges, r.2 < 97 ∨ 122 < r.1 := by decide +kernel
  have upperOut : ∀ r ∈ caseIgnorableRanges, r.2 < 65 ∨ 90 < r.1 := by decide +kernel
  rw [isCaseIgnorable,isCaseIgnorable,contains_eq_false lowerOut lower,contains_eq_false upperOut upper]

theorem isSigma_sameLetter (same : SameLetter c d) : (c == 'Σ') = (d == 'Σ') :=
  eq_of_sameLetter (f := (· == 'Σ')) (by decide) same

theorem upperChars_anyCase (same : AnyCase cs ds) : upperChars cs = upperChars ds := by
  induction same with
  | nil => rfl
  | @cons c d cs ds first _ ih =>
    calc upperChars (c :: cs)
      _ = upperChar c ++ upperChars cs := List.flatMap_cons
      _ = upperChar d ++ upperChars ds := by rw [upperChar_sameLetter first,ih]
      _ = upperChars (d :: ds) := List.flatMap_cons.symm

theorem startsCased_anyCase (same : AnyCase cs ds) : startsCased cs = startsCased ds := by
  induction same with
  | nil => rfl
  | @cons c d cs ds first _ ih =>
    rw [startsCased,startsCased,List.find?_cons,List.find?_cons,isCaseIgnorable_sameLetter first]
    cases isCaseIgnorable d with
    | true => exact ih
    | false => exact isCased_sameLetter first

/-- A sigma takes the same form in both texts: what stands before it and what stands
    behind it are the same but for the case of letters. -/
theorem lowerCharsAfter_anyCase {before other : List Char} (around : AnyCase before other) (same : AnyCase cs ds) :
    lowerCharsAfter before cs = lowerCharsAfter other ds := by
  induction same generalizing before other with
  | nil => rfl
  | @cons c d cs ds first rest ih =>
    have later := ih (List.Forall₂.cons first around)
    have ends : endsWord before cs = endsWord other ds := by
      rw [endsWord,endsWord,startsCased_anyCase around,startsCased_anyCase rest]
    have sigma : c = 'Σ' ↔ d = 'Σ' := by simpa using isSigma_sameLetter first
    simp only [lowerCharsAfter,sigma,ends,lowerChar_sameLetter first,later]

end Text

/-- The same text but for the case of ASCII letters. -/
def SameButCase (m n : String) : Prop := AnyCase m.toList n.toList

theorem fold_fold (d : Dialect) (n : String) : d.fold (d.fold n) = d.fold n := by
  cases d with
  | mysql => rfl
  | derby => simp [Dialect.fold,Text.upper,Text.upperChars_upperChars]
  | oracle => simp [Dialect.fold,Text.upper,Text.upperChars_upperChars]
  | postgres => simp [Dialect.fold,Text.lower,Text.lowerChars_lowerChars]

theorem fold_sameButCase {d : Dialect} (folds : d ≠ .mysql) {m n : String} (same : SameButCase m n) :
    d.fold m = d.fold n := by
  cases d with
  | mysql => exact absurd rfl folds
  | derby => exact congrArg String.ofList (Text.upperChars_anyCase same)
  | oracle => exact congrArg String.ofList (Text.upperChars_anyCase same)
  | postgres => exact congrArg String.ofList (Text.lowerCharsAfter_anyCase .nil same)

theorem text_name_inj {a : Adapter} {m n : String} :
    a.text [a.name m] = a.text [a.name n] ↔ a.dialect.fold m = a.dialect.fold n := by
  have located := text_located_inj (a := a) (s := none) (t := none) (n := a.dialect.fold m) (m := a.dialect.fold n)
  simpa [Sql.located,Adapter.name] using located

/-- A name in its stored case is stored as it stands, so that it is quoted like the
    name that it comes from. Two names are quoted alike if and only if their stored
    case is the same, and it is so, except in MySQL, if they are the same but for
    the case of ASCII letters. -/
theorem stored_case_stable (a : Adapter) :
    (∀ n, a.dialect.fold (a.dialect.fold n) = a.dialect.fold n) ∧
    (∀ n, a.text [a.name (a.dialect.fold n)] = a.text [a.name n]) ∧
    (∀ m n, a.text [a.name m] = a.text [a.name n] ↔ a.dialect.fold m = a.dialect.fold n) ∧
    (a.dialect ≠ .mysql → ∀ m n, SameButCase m n → a.text [a.name m] = a.text [a.name n]) := by
  refine ⟨fold_fold a.dialect,?_,?_,?_⟩
  · intro n
    exact text_name_inj.mpr (fold_fold a.dialect n)
  · intro m n
    exact text_name_inj
  · intro folds m n same
    exact text_name_inj.mpr (fold_sameButCase folds same)

/-- The first sigma is followed by a letter behind a full stop and the second one by
    none, whatever the case of the letters. -/
theorem stored_case_stable_of_sigmas :
    (Adapter.ofDialect .postgres).dialect ≠ .mysql ∧ SameButCase "AΣ.bΣ" "aΣ.BΣ" ∧
      (Adapter.ofDialect .postgres).text [(Adapter.ofDialect .postgres).name "AΣ.bΣ"] =
        (Adapter.ofDialect .postgres).text [(Adapter.ofDialect .postgres).name "aΣ.BΣ"] := by
  have folds : (Adapter.ofDialect .postgres).dialect ≠ .mysql := by decide
  have same : SameButCase "AΣ.bΣ" "aΣ.BΣ" := map_toLower_eq_iff.mp (by decide)
  exact ⟨folds,same,(stored_case_stable (.ofDialect .postgres)).2.2.2 folds _ _ same⟩

end PortableDdl
