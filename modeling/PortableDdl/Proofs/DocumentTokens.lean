import Mathlib.Data.List.Chain
import Mathlib.Data.List.Forall2
import PortableDdl.Json.Token

/-!
# Tokens and their text

A document is written token by token, with layout between them. What a scanner
finds in the text are these tokens and no others, whatever characters stand in
the texts among them and however they are escaped, if a sign follows every token
that does not show its end.
-/

namespace PortableDdl.Json

namespace Scanner

/-- Whether a scanner comes from one place to another over some characters. -/
def Passes (s : Scanner) (cs : List Char) (after : Scanner) : Prop := cs.foldlM step s = some after

theorem passes_nil (s : Scanner) : s.Passes [] s := rfl

theorem passes_cons {s next after : Scanner} {c : Char} {cs : List Char} (first : s.step c = some next)
    (rest : next.Passes cs after) : s.Passes (c :: cs) after := by
  rw [Passes,List.foldlM_cons,first]
  exact rest

theorem passes_append {s next after : Scanner} {cs ds : List Char} (first : s.Passes cs next)
    (rest : next.Passes ds after) : s.Passes (cs ++ ds) after := by
  rw [Passes,List.foldlM_append,first]
  exact rest

end Scanner

open Scanner

/-- How a unit of a text may be written: as it is, or by one of its escapes. -/
inductive TextUnit.Spelled : TextUnit → List Char → Prop
  | plain {c : Char} : needsEscape c = false → Spelled (.char c) [c]
  | letter {c letter : Char} : (c,letter) ∈ letterEscapes → Spelled (.char c) ['\\',letter]
  | code {a b c d : Char} {w x y z : Nat} : hexDigit? a = some w → hexDigit? b = some x → hexDigit? c = some y →
      hexDigit? d = some z → Spelled (.ofCode (16 * (16 * (16 * w + x) + y) + z)) ['\\','u',a,b,c,d]

theorem hexDigit?_hexDigit : ∀ n < 16, hexDigit? (hexDigit n) = some n := by decide

/-- The letters of escapes stand for their characters, and none is taken for the
    beginning of a code unit. -/
theorem unescaped?_letter : ∀ e ∈ letterEscapes, e.2 ≠ 'u' ∧ unescaped? e.2 = some e.1 := by decide

theorem passes_unit (ts : List Token) (us : List TextUnit) {u : TextUnit} {cs : List Char} (spelled : u.Spelled cs) :
    Passes ⟨ts,.text us⟩ cs ⟨ts,.text (u :: us)⟩ := by
  have backslash : step ⟨ts,.text us⟩ '\\' = some ⟨ts,.escape us⟩ := rfl
  cases spelled with
  | @plain c plain =>
    have outside : c ≠ '"' ∧ c ≠ '\\' ∧ ¬ c.toNat < 0x20 := by simpa [needsEscape,and_assoc] using plain
    exact passes_cons (by simp only [step,outside,if_false]) (passes_nil _)
  | letter listed =>
    obtain ⟨noCode,meant⟩ := unescaped?_letter _ listed
    exact passes_cons backslash (passes_cons (by simp [step,noCode,meant]) (passes_nil _))
  | code first second third fourth =>
    refine passes_cons backslash ?_
    simp [Passes,step,first,second,third,fourth]

/-- A control character without a letter of its own is written as the code unit
    that it is. -/
theorem spelled_control {c : Char} (control : c.toNat < 0x20) :
    TextUnit.Spelled (.char c) ['\\','u','0','0',hexDigit (c.toNat / 16),hexDigit (c.toNat % 16)] := by
  have zero : hexDigit? '0' = some 0 := rfl
  have high := hexDigit?_hexDigit (c.toNat / 16) (by omega)
  have low := hexDigit?_hexDigit (c.toNat % 16) (by omega)
  have value : 16 * (16 * (16 * 0 + 0) + c.toNat / 16) + c.toNat % 16 = c.toNat := by omega
  have unit : TextUnit.ofCode c.toNat = .char c := by
    have whole : ¬ (isHighHalf c.toNat || isLowHalf c.toNat) = true := by
      simp [isHighHalf,isLowHalf]
      omega
    rw [TextUnit.ofCode,if_neg whole,Char.ofNat_toNat]
  have spelled := TextUnit.Spelled.code zero zero high low
  rwa [value,unit] at spelled

theorem spelled_escaped (c : Char) : TextUnit.Spelled (.char c) (escaped c) := by
  rw [escaped]
  split
  · rename_i special
    cases found : letterEscapes.find? (·.1 == c) with
    | some e =>
      obtain rfl : e.1 = c := by simpa using List.find?_some found
      exact .letter (List.mem_of_find?_eq_some found)
    | none =>
      have unlettered : c ≠ '"' ∧ c ≠ '\\' := by
        simp only [List.find?_eq_none] at found
        exact ⟨fun same => found ('"','"') (by decide) (by simp [same]),
          fun same => found ('\\','\\') (by decide) (by simp [same])⟩
      exact spelled_control (by simpa [needsEscape,unlettered] using special)
  · rename_i plain
    exact .plain (by simpa using plain)

theorem passes_units {units : List TextUnit} {pieces : List (List Char)} (spelled : List.Forall₂ TextUnit.Spelled units pieces)
    (ts : List Token) (us : List TextUnit) :
    Passes ⟨ts,.text us⟩ pieces.flatten ⟨ts,.text (units.reverse ++ us)⟩ := by
  induction spelled generalizing us with
  | nil => exact passes_nil _
  | @cons u cs units pieces first _ ih =>
    rw [List.flatten_cons]
    refine passes_append (passes_unit ts us first) ?_
    simpa using ih (u :: us)

theorem charsOfUnits?_char (cs : List Char) : charsOfUnits? (cs.map .char) = some cs := by
  induction cs with
  | nil => rfl
  | cons c cs ih => simp [charsOfUnits?,ih]

theorem continues_of_digits {cs : List Char} (digits : cs.all Char.isDigit = true) : cs.all continuesNumber = true := by
  simp only [List.all_eq_true] at digits ⊢
  intro c member
  simp [continuesNumber,digits c member]

theorem continues_of_afterMinus {cs : List Char} (unsigned : (afterMinus cs).all continuesNumber = true) :
    cs.all continuesNumber = true := by
  unfold afterMinus at unsigned
  split at unsigned
  · simpa [continuesNumber] using unsigned
  · exact unsigned

theorem continues_of_afterSign {cs : List Char} (unsigned : (afterSign cs).all continuesNumber = true) :
    cs.all continuesNumber = true := by
  unfold afterSign at unsigned
  split at unsigned
  · simpa [continuesNumber] using unsigned
  · exact continues_of_afterMinus unsigned

theorem continues_of_exponent {cs : List Char} (exponent : isExponent cs = true) : cs.all continuesNumber = true := by
  cases cs with
  | nil => rfl
  | cons e cs =>
    simp only [isExponent,isDigits,Bool.and_eq_true,Bool.or_eq_true,beq_iff_eq] at exponent
    obtain ⟨letter,_,digits⟩ := exponent
    have rest := continues_of_afterSign (continues_of_digits digits)
    rcases letter with rfl | rfl <;> simpa [continuesNumber] using rest

/-- What goes on to a place and behind it goes on throughout. -/
theorem continues_of_split {cs : List Char} (digits : (cs.takeWhile Char.isDigit).all Char.isDigit = true)
    (rest : (cs.dropWhile Char.isDigit).all continuesNumber = true) : cs.all continuesNumber = true := by
  rw [← List.takeWhile_append_dropWhile (p := Char.isDigit) (l := cs),List.all_append,Bool.and_eq_true]
  exact ⟨continues_of_digits digits,rest⟩

theorem continues_of_numberTail {cs : List Char} (tail : isNumberTail cs = true) : cs.all continuesNumber = true := by
  unfold isNumberTail at tail
  split at tail
  · simp only [isDigits,Bool.and_eq_true] at tail
    obtain ⟨⟨_,digits⟩,exponent⟩ := tail
    simpa [continuesNumber] using continues_of_split digits (continues_of_exponent exponent)
  · exact continues_of_exponent tail

/-- A number begins as numbers do, and goes on so to its end. -/
theorem chars_of_number {cs : List Char} (number : isNumber cs = true) :
    ∃ c rest, cs = c :: rest ∧ startsNumber c = true ∧ rest.all continuesNumber = true := by
  simp only [isNumber,isWholePart,isDigits,Bool.and_eq_true] at number
  obtain ⟨⟨⟨present,digits⟩,_⟩,tail⟩ := number
  have unsigned := continues_of_split digits (continues_of_numberTail tail)
  cases cs with
  | nil => simp [afterMinus] at present
  | cons c rest =>
    refine ⟨c,rest,rfl,?_,?_⟩
    · by_cases minus : c = '-'
      · simp [startsNumber,minus]
      · have same : afterMinus (c :: rest) = c :: rest := by
          unfold afterMinus
          split
          · rename_i same
            cases same
            exact absurd rfl minus
          · rfl
        rw [same,List.takeWhile_cons] at present
        simp only [startsNumber,Bool.or_eq_true]
        exact .inl (by by_contra other; simp [other] at present)
    · have all := continues_of_afterMinus unsigned
      simp only [List.all_cons,Bool.and_eq_true] at all
      exact all.2

theorem passes_number (ts : List Token) (read : List Char) {cs : List Char} (continues : cs.all continuesNumber = true) :
    Passes ⟨ts,.number read⟩ cs ⟨ts,.number (cs.reverse ++ read)⟩ := by
  induction cs generalizing read with
  | nil => exact passes_nil _
  | cons c cs ih =>
    obtain ⟨first,rest⟩ : continuesNumber c = true ∧ cs.all continuesNumber = true := by simpa using continues
    have next : step ⟨ts,.number read⟩ c = some ⟨ts,.number (c :: read)⟩ := by simp only [step,first,if_true]
    refine passes_cons next ?_
    simpa using ih (c :: read) rest

/-- A number is entered by its first character. -/
theorem enter_number (ts : List Token) {c : Char} (starts : startsNumber c = true) :
    enter ⟨ts,.between⟩ c = some ⟨ts,.number [c]⟩ := by
  have noLayout : isLayout c = false := by
    by_contra layout
    simp only [Bool.not_eq_false,isLayout,Bool.or_eq_true,beq_iff_eq,or_assoc] at layout
    rcases layout with rfl | rfl | rfl | rfl <;> simp [startsNumber] at starts
  have noText : c ≠ '"' := by
    rintro rfl
    simp [startsNumber] at starts
  simp [enter,noLayout,noText,starts]

/-- Whether a number is made of the characters of a number. -/
def Token.Valid : Token → Prop
  | .number lexeme => isNumber lexeme.toList = true
  | _ => True

/-- Whether a token does not show its end. -/
def Token.isOpenEnded : Token → Bool
  | .null | .bool _ | .number _ => true
  | _ => false

/-- Whether a token is a bracket or a sign. -/
def Token.isSign : Token → Bool
  | .openList | .closeList | .openRecord | .closeRecord | .colon | .comma => true
  | _ => false

/-- Whether the end of a token shows in front of another one. -/
def Token.Apart (t u : Token) : Prop := t.isOpenEnded = true → u.isSign = true

/-- A character that goes on with nothing ends the token before it. -/
theorem step_of_settled {s between : Scanner} (settled : s.settle = some between) {c : Char} (noWord : c.isLower = false)
    (noNumber : continuesNumber c = false) : s.step c = between.enter c := by
  obtain ⟨ts,mode⟩ := s
  cases mode with
  | between =>
    cases settled
    rfl
  | number cs => simp [step,noNumber,settled]
  | word cs => simp [step,noWord,settled]
  | _ => cases settled

theorem passes_sign {t : Token} (sign : t.isSign = true) {s : Scanner} {ts : List Token}
    (settled : s.settle = some ⟨ts,.between⟩) : s.Passes t.chars ⟨t :: ts,.between⟩ := by
  cases t with
  | null => cases sign
  | bool b => cases sign
  | number lexeme => cases sign
  | text t => cases sign
  | _ => exact passes_cons (step_of_settled settled (by decide) (by decide)) (passes_nil _)

theorem passes_quoted {units : List TextUnit} {pieces : List (List Char)} (spelled : List.Forall₂ TextUnit.Spelled units pieces)
    (ts : List Token) :
    Passes ⟨ts,.between⟩ ('"' :: (pieces.flatten ++ ['"']))
      ⟨.text ((charsOfUnits? units).map String.ofList) :: ts,.between⟩ := by
  refine passes_cons rfl (passes_append (passes_units spelled ts []) (passes_cons ?_ (passes_nil _)))
  simp [step,emit]

theorem passes_textToken (ts : List Token) (t : Option String) :
    Passes ⟨ts,.between⟩ (Token.text t).chars ⟨.text t :: ts,.between⟩ := by
  cases t with
  | none => rfl
  | some s =>
    have spelled : List.Forall₂ TextUnit.Spelled (s.toList.map .char) (s.toList.map escaped) := by
      simp [List.forall₂_map_left_iff,List.forall₂_map_right_iff,List.forall₂_same,spelled_escaped]
    simpa [Token.chars,textBody,List.flatMap,charsOfUnits?_char] using passes_quoted spelled ts

/-- A token that is read may wait for its end, but for nothing else. -/
theorem passes_token {t : Token} (valid : t.Valid) (ts : List Token) :
    ∃ after, Passes ⟨ts,.between⟩ t.chars after ∧ after.settle = some ⟨t :: ts,.between⟩ ∧
      (t.isOpenEnded = false → after = ⟨t :: ts,.between⟩) := by
  cases t with
  | null => exact ⟨_,rfl,rfl,by simp [Token.isOpenEnded]⟩
  | bool b => cases b <;> exact ⟨_,rfl,rfl,by simp [Token.isOpenEnded]⟩
  | text t => exact ⟨_,passes_textToken ts t,rfl,fun _ => rfl⟩
  | number lexeme =>
    obtain ⟨c,rest,chars,starts,continues⟩ := chars_of_number valid
    refine ⟨⟨ts,.number (rest.reverse ++ [c])⟩,?_,?_,by simp [Token.isOpenEnded]⟩
    · rw [Token.chars,chars]
      exact passes_cons (enter_number ts starts) (passes_number ts [c] continues)
    · have whole : (rest.reverse ++ [c]).reverse = lexeme.toList := by simp [chars]
      have number : isNumber lexeme.toList = true := valid
      simp [settle,whole,number,emit]
  | _ => exact ⟨_,passes_sign rfl rfl,rfl,fun _ => rfl⟩

/-- Whether there is nothing but layout. -/
def Layout (cs : List Char) : Prop := ∀ c ∈ cs, isLayout c = true

theorem outside_of_layout {c : Char} (layout : isLayout c = true) : c.isLower = false ∧ continuesNumber c = false := by
  simp only [isLayout,Bool.or_eq_true,beq_iff_eq,or_assoc] at layout
  rcases layout with rfl | rfl | rfl | rfl <;> decide

/-- Layout ends the token before it, and is no part of any. -/
theorem passes_layout {gap : List Char} (layout : Layout gap) {s : Scanner} {ts : List Token}
    (settled : s.settle = some ⟨ts,.between⟩) :
    ∃ middle, s.Passes gap middle ∧ middle.settle = some ⟨ts,.between⟩ ∧ (middle = s ∨ middle = ⟨ts,.between⟩) := by
  induction gap generalizing s with
  | nil => exact ⟨s,passes_nil s,settled,.inl rfl⟩
  | cons c gap ih =>
    obtain ⟨first,others⟩ := List.forall_mem_cons.mp layout
    obtain ⟨noWord,noNumber⟩ := outside_of_layout first
    have next : s.step c = some ⟨ts,.between⟩ := by
      rw [step_of_settled settled noWord noNumber]
      exact if_pos first
    obtain ⟨middle,passed,settles,stays⟩ := ih others (s := ⟨ts,.between⟩) rfl
    exact ⟨middle,passes_cons next passed,settles,.inr (stays.elim id id)⟩

/-! ## Over documents -/

/-- How a token may be written: a text with any of its characters escaped, and
    anything else in one way. -/
inductive Token.Spelled : Token → List Char → Prop
  | usual (t : Token) : Spelled t t.chars
  | text {units : List TextUnit} {pieces : List (List Char)} : List.Forall₂ TextUnit.Spelled units pieces →
      Spelled (.text ((charsOfUnits? units).map String.ofList)) ('"' :: (pieces.flatten ++ ['"']))

/-- How tokens may be written in a row, with layout around each of them. -/
inductive Laid : List Token → List Char → Prop
  | nil {gap : List Char} : Layout gap → Laid [] gap
  | cons {t : Token} {ts : List Token} {gap cs rest : List Char} : Layout gap → t.Spelled cs → Laid ts rest →
      Laid (t :: ts) (gap ++ (cs ++ rest))

theorem laid_chars (us : List Token) : Laid us (us.flatMap Token.chars) := by
  induction us with
  | nil => exact .nil nofun
  | cons u us ih =>
    have between : Layout [] := nofun
    exact .cons between (.usual u) ih

theorem passes_spelled {t : Token} {cs : List Char} (spelled : t.Spelled cs) (valid : t.Valid) {s : Scanner} {ts : List Token}
    (settled : s.settle = some ⟨ts,.between⟩) (ended : s = ⟨ts,.between⟩ ∨ t.isSign = true) :
    ∃ after, s.Passes cs after ∧ after.settle = some ⟨t :: ts,.between⟩ ∧
      (t.isOpenEnded = false → after = ⟨t :: ts,.between⟩) := by
  rcases ended with rfl | sign
  · cases spelled with
    | usual => exact passes_token valid ts
    | text units => exact ⟨_,passes_quoted units ts,rfl,fun _ => rfl⟩
  · cases spelled with
    | usual => exact ⟨_,passes_sign sign settled,rfl,fun _ => rfl⟩
    | text units => cases sign

/-- Tokens are read in their order if each one shows its end. -/
theorem passes_laid {us : List Token} {cs : List Char} (laid : Laid us cs) (valid : ∀ t ∈ us, t.Valid)
    (apart : us.IsChain Token.Apart) {s : Scanner} {ts : List Token} (settled : s.settle = some ⟨ts,.between⟩)
    (ended : s = ⟨ts,.between⟩ ∨ ∀ t ∈ us.head?, t.isSign = true) :
    ∃ after, s.Passes cs after ∧ after.settle = some ⟨us.reverse ++ ts,.between⟩ := by
  -- A token without an end of its own is still being read when the next one
  -- begins, so the induction is on where the scanner settles, not on where it is.
  induction laid generalizing s ts with
  | nil layout =>
    obtain ⟨after,passed,settles,_⟩ := passes_layout layout settled
    exact ⟨after,passed,settles⟩
  | @cons t us gap cs rest layout spelled _ ih =>
    obtain ⟨next,apart⟩ := List.isChain_cons.mp apart
    obtain ⟨first,others⟩ := List.forall_mem_cons.mp valid
    obtain ⟨begun,around,settles,moved⟩ := passes_layout layout settled
    have ready : begun = ⟨ts,.between⟩ ∨ t.isSign = true := by
      rcases ended with same | sign
      · exact .inl (moved.elim (fun stayed => stayed.trans same) id)
      · exact .inr (sign t rfl)
    obtain ⟨middle,passed,waits,shown⟩ := passes_spelled spelled first settles ready
    have ended : middle = ⟨t :: ts,.between⟩ ∨ ∀ u ∈ us.head?, u.isSign = true := by
      cases openEnded : t.isOpenEnded with
      | false => exact .inl (shown openEnded)
      | true => exact .inr fun u member => next u member openEnded
    obtain ⟨after,later,settles⟩ := ih others apart waits ended
    exact ⟨after,passes_append around (passes_append passed later),by simpa using settles⟩

/-- The tokens of a text that is written token by token. -/
theorem tokens?_laid {us : List Token} {cs : List Char} (laid : Laid us cs) (valid : ∀ t ∈ us, t.Valid)
    (apart : us.IsChain Token.Apart) : tokens? cs = some us := by
  have begins : settle start = some ⟨[],.between⟩ := rfl
  obtain ⟨after,passed,settled⟩ := passes_laid laid valid apart begins (.inl rfl)
  have reached : cs.foldlM step start = some after := passed
  simp [tokens?,reached,settled]

/-- Whether the numbers among the tokens read so far are numbers. -/
def Scanner.Sound (s : Scanner) : Prop := ∀ t ∈ s.tokens, t.Valid

namespace Scanner

variable {s after : Scanner} {c : Char}

theorem sound_emit (sound : s.Sound) {t : Token} (valid : t.Valid) : (s.emit t).Sound :=
  List.forall_mem_cons.mpr ⟨valid,sound⟩

theorem sound_enter (sound : s.Sound) (entered : s.enter c = some after) : after.Sound := by
  unfold enter at entered
  split at entered
  · cases entered
    exact sound
  split at entered
  · cases entered
    exact sound
  split at entered
  · cases entered
    exact sound
  split at entered
  · cases entered
    exact sound
  obtain ⟨t,sign,rfl⟩ := Option.map_eq_some_iff.mp entered
  have listed := List.mem_of_find?_eq_some sign
  refine sound_emit sound ?_
  simp only [List.mem_cons,List.not_mem_nil,or_false] at listed
  rcases listed with rfl | rfl | rfl | rfl | rfl | rfl <;> trivial

theorem sound_settle (sound : s.Sound) (settled : s.settle = some after) : after.Sound := by
  unfold settle at settled
  split at settled
  · cases settled
    exact sound
  · split at settled
    · rename_i number
      cases settled
      refine sound_emit sound ?_
      simpa [Token.Valid] using number
    · cases settled
  · obtain ⟨t,word,rfl⟩ := Option.map_eq_some_iff.mp settled
    have listed := List.mem_of_find?_eq_some word
    refine sound_emit sound ?_
    simp only [List.mem_cons,List.not_mem_nil,or_false] at listed
    rcases listed with rfl | rfl | rfl <;> trivial
  · cases settled

theorem sound_step (sound : s.Sound) (stepped : s.step c = some after) : after.Sound := by
  have settles : ∀ {next}, s.settle.bind (·.enter c) = some next → next.Sound := by
    intro next both
    obtain ⟨between,settled,entered⟩ := Option.bind_eq_some_iff.mp both
    exact sound_enter (sound_settle sound settled) entered
  unfold step at stepped
  split at stepped
  · exact sound_enter sound stepped
  · split at stepped
    · cases stepped
      exact sound_emit sound trivial
    split at stepped
    · cases stepped
      exact sound
    split at stepped
    · cases stepped
    · cases stepped
      exact sound
  · split at stepped
    · cases stepped
      exact sound
    · obtain ⟨_,_,rfl⟩ := Option.map_eq_some_iff.mp stepped
      exact sound
  · obtain ⟨_,_,rfl⟩ := Option.map_eq_some_iff.mp stepped
    exact sound
  · obtain ⟨_,_,rfl⟩ := Option.map_eq_some_iff.mp stepped
    exact sound
  · split at stepped
    · cases stepped
      exact sound
    · exact settles stepped
  · split at stepped
    · cases stepped
      exact sound
    · exact settles stepped

theorem sound_passes (sound : s.Sound) {cs : List Char} (passed : s.Passes cs after) : after.Sound := by
  induction cs generalizing s with
  | nil =>
    cases passed
    exact sound
  | cons c cs ih =>
    rw [Passes,List.foldlM_cons] at passed
    obtain ⟨next,stepped,rest⟩ := Option.bind_eq_some_iff.mp passed
    exact ih (sound_step sound stepped) rest

end Scanner

/-- The numbers that are found in a text are numbers. -/
theorem valid_of_tokens? {cs : List Char} {ts : List Token} (found : tokens? cs = some ts) : ∀ t ∈ ts, t.Valid := by
  obtain ⟨after,finished,rfl⟩ := Option.map_eq_some_iff.mp found
  obtain ⟨last,passed,settled⟩ := Option.bind_eq_some_iff.mp finished
  have begins : start.Sound := by simp [Sound,start]
  have sound := sound_settle (sound_passes begins passed) settled
  intro t member
  exact sound t (List.mem_reverse.mp member)

end PortableDdl.Json
