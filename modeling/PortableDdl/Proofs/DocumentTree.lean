import PortableDdl.Json.Reading
import PortableDdl.Json.Writing
import PortableDdl.Proofs.DocumentTokens

/-!
# Trees and their tokens

The tokens of a document are put together to the tree that they are the tokens
of, whatever its depth. So a tree is read back from its text, and the numbers in
what is read from any text are numbers.
-/

namespace PortableDdl.Json

/-- What holds of a list or a record if it holds of the values in it, and of all
    other values, holds of every value. -/
theorem Value.induction {P : Value → Prop} (null : P .null) (bool : ∀ b, P (.bool b))
    (number : ∀ lexeme, P (.number lexeme)) (text : ∀ t, P (.text t))
    (list : ∀ items : List Value, (∀ v ∈ items, P v) → P (.list items))
    (record : ∀ members : List Member, (∀ m ∈ members, P m.2) → P (.record members)) (v : Value) : P v := by
  refine @Value.rec P (fun items => ∀ v ∈ items, P v) (fun members => ∀ m ∈ members, P m.2) (fun m => P m.2)
    null bool number text list record ?_ ?_ ?_ ?_ ?_ v
  · simp
  · intro v items first rest
    exact List.forall_mem_cons.mpr ⟨first,rest⟩
  · simp
  · intro m members first rest
    exact List.forall_mem_cons.mpr ⟨first,rest⟩
  · intro _ v holds
    exact holds

theorem itemTokens_cons_cons (v w : Value) (items : List Value) :
    itemTokens (v :: w :: items) = v.tokens ++ .comma :: itemTokens (w :: items) := by
  rw [itemTokens]
  rfl

theorem itemTokens_singleton (v : Value) : itemTokens [v] = v.tokens := by
  rw [itemTokens]
  simp

theorem memberTokens_cons_cons (m n : Member) (members : List Member) :
    memberTokens (m :: n :: members) =
      .text m.1 :: .colon :: (m.2.tokens ++ .comma :: memberTokens (n :: members)) := by
  rw [memberTokens]
  rfl

theorem memberTokens_singleton (m : Member) : memberTokens [m] = .text m.1 :: .colon :: m.2.tokens := by
  rw [memberTokens]
  simp

/-- A value has a token, which does not end a list. -/
theorem tokens_head (v : Value) : ∃ t ts, v.tokens = t :: ts ∧ t ≠ .closeList := by
  cases v <;> (rw [Value.tokens]; exact ⟨_,_,rfl,by simp⟩)

namespace Builder

/-- Whether a builder comes from one place to another over some tokens. -/
def Takes (b : Builder) (ts : List Token) (after : Builder) : Prop := ts.foldlM step b = some after

theorem takes_nil (b : Builder) : b.Takes [] b := rfl

theorem takes_cons {b next after : Builder} {t : Token} {ts : List Token} (first : b.step t = some next)
    (rest : next.Takes ts after) : b.Takes (t :: ts) after := by
  rw [Takes,List.foldlM_cons,first]
  exact rest

theorem takes_append {b next after : Builder} {ts us : List Token} (first : b.Takes ts next)
    (rest : next.Takes us after) : b.Takes (ts ++ us) after := by
  rw [Takes,List.foldlM_append,first]
  exact rest

/-- What a value may begin with is taken at the beginning of a list as after a
    comma. -/
theorem takes_firstItem {stack : List Frame} {after : Builder} {v : Value} {items : List Value} {ts : List Token}
    (taken : Takes (.value (.item [] :: stack)) (itemTokens (v :: items) ++ ts) after) :
    Takes (.firstItem stack) (itemTokens (v :: items) ++ ts) after := by
  obtain ⟨t,rest,tokens,inside⟩ := tokens_head v
  have same : step (.firstItem stack) t = step (.value (.item [] :: stack)) t := by
    cases t <;> first | rfl | exact absurd rfl inside
  simp only [itemTokens,tokens,List.cons_append,Takes,List.foldlM_cons] at taken ⊢
  rwa [same]

/-- A name is taken at the beginning of a record as after a comma. -/
theorem takes_firstKey {stack : List Frame} {after : Builder} {m : Member} {members : List Member} {ts : List Token}
    (taken : Takes (.key [] stack) (memberTokens (m :: members) ++ ts) after) :
    Takes (.firstKey stack) (memberTokens (m :: members) ++ ts) after := by
  obtain ⟨name,v⟩ := m
  rw [memberTokens] at taken ⊢
  exact taken

/-- Whether the tokens of a value put it where it is waited for. -/
def Places (v : Value) : Prop := ∀ stack, Takes (.value stack) v.tokens (place v stack)

theorem takes_items {items : List Value} (places : ∀ v ∈ items, Places v) (present : items ≠ []) (read : List Value)
    (stack : List Frame) :
    Takes (.value (.item read :: stack)) (itemTokens items ++ [.closeList]) (place (.list (read.reverse ++ items)) stack) := by
  -- Each item joins those read before it, and the last one meets the bracket.
  induction items generalizing read with
  | nil => exact absurd rfl present
  | cons v items ih =>
    obtain ⟨first,others⟩ := List.forall_mem_cons.mp places
    cases items with
    | nil =>
      rw [itemTokens_singleton]
      refine takes_append (first _) (takes_cons rfl ?_)
      simpa using takes_nil _
    | cons w items =>
      rw [itemTokens_cons_cons,List.append_assoc]
      refine takes_append (first _) (takes_cons rfl ?_)
      simpa using ih others (by simp) (v :: read)

theorem takes_members {members : List Member} (places : ∀ m ∈ members, Places m.2) (present : members ≠ [])
    (read : List Member) (stack : List Frame) :
    Takes (.key read stack) (memberTokens members ++ [.closeRecord])
      (place (.record (read.reverse ++ members)) stack) := by
  induction members generalizing read with
  | nil => exact absurd rfl present
  | cons m members ih =>
    obtain ⟨first,others⟩ := List.forall_mem_cons.mp places
    cases members with
    | nil =>
      rw [memberTokens_singleton]
      refine takes_cons rfl (takes_cons rfl (takes_append (first _) (takes_cons rfl ?_)))
      simpa using takes_nil _
    | cons n members =>
      rw [memberTokens_cons_cons]
      simp only [List.cons_append,List.append_assoc]
      refine takes_cons rfl (takes_cons rfl (takes_append (first _) (takes_cons rfl ?_)))
      simpa using ih others (by simp) (m :: read)

/-- The tokens of a value put it where it is waited for. -/
theorem takes_tokens (v : Value) : Places v := by
  induction v using Value.induction with
  | null => exact fun stack => rfl
  | bool b => exact fun stack => rfl
  | number lexeme => exact fun stack => rfl
  | text t => exact fun stack => rfl
  | list items ih =>
    intro stack
    rw [Value.tokens]
    refine takes_cons rfl ?_
    cases items with
    | nil => exact takes_cons rfl (takes_nil _)
    | cons v items => exact takes_firstItem (takes_items ih (by simp) [] stack)
  | record members ih =>
    intro stack
    rw [Value.tokens]
    refine takes_cons rfl ?_
    cases members with
    | nil => exact takes_cons rfl (takes_nil _)
    | cons m members => exact takes_firstKey (takes_members ih (by simp) [] stack)

/-- The tokens of a list that goes on behind some items, latest first. -/
def begunList (items : List Value) : List Token :=
  .openList :: items.reverse.flatMap fun v => v.tokens ++ [.comma]

/-- The tokens of a record that goes on behind some members, latest first. -/
def begunRecord (members : List Member) : List Token :=
  .openRecord :: members.reverse.flatMap fun m => .text m.1 :: .colon :: (m.2.tokens ++ [.comma])

/-- The tokens of a list or record up to the value that it waits for. -/
def begunFrame : Frame → List Token
  | .item items => begunList items
  | .member members name => begunRecord members ++ [.text name,.colon]

/-- The tokens up to the value that is waited for. -/
def begun (stack : List Frame) : List Token := stack.reverse.flatMap begunFrame

theorem begun_cons (frame : Frame) (stack : List Frame) : begun (frame :: stack) = begun stack ++ begunFrame frame := by
  simp [begun]

/-- The tokens that lead to a builder. -/
inductive Reached : List Token → Builder → Prop
  | value (stack) : Reached (begun stack) (.value stack)
  | firstItem (stack) : Reached (begun stack ++ [.openList]) (.firstItem stack)
  | afterItem (v items stack) : Reached (begun (.item items :: stack) ++ v.tokens) (.afterItem (v :: items) stack)
  | firstKey (stack) : Reached (begun stack ++ [.openRecord]) (.firstKey stack)
  | key (members stack) : Reached (begun stack ++ begunRecord members) (.key members stack)
  | colon (members name stack) :
      Reached (begun stack ++ begunRecord members ++ [.text name]) (.colon members name stack)
  | afterMember (members name v stack) :
      Reached (begun (.member members name :: stack) ++ v.tokens) (.afterMember ((name,v) :: members) stack)
  | done (v) : Reached v.tokens (.done v)

theorem itemTokens_append (items : List Value) (v : Value) :
    itemTokens (items ++ [v]) = (items.flatMap fun w => w.tokens ++ [.comma]) ++ v.tokens := by
  induction items with
  | nil => simp [itemTokens]
  | cons w items ih =>
    rw [List.cons_append,itemTokens,ih]
    simp

theorem memberTokens_append (members : List Member) (m : Member) :
    memberTokens (members ++ [m]) =
      (members.flatMap fun n => .text n.1 :: .colon :: (n.2.tokens ++ [.comma])) ++ .text m.1 :: .colon :: m.2.tokens := by
  induction members with
  | nil => simp [memberTokens]
  | cons n members ih =>
    rw [List.cons_append,memberTokens,ih]
    simp

theorem reached_place (v : Value) (stack : List Frame) : Reached (begun stack ++ v.tokens) (place v stack) := by
  cases stack with
  | nil => exact .done v
  | cons frame stack =>
    cases frame with
    | item items => exact .afterItem v items stack
    | member members name => exact .afterMember members name v stack

theorem reached_enter {stack : List Frame} {t : Token} {after : Builder} (entered : enter stack t = some after) :
    Reached (begun stack ++ [t]) after := by
  have placed : ∀ v : Value, v.tokens = [t] → Reached (begun stack ++ [t]) (place v stack) := fun v tokens =>
    tokens ▸ reached_place v stack
  cases t <;> cases entered
  · exact .firstItem stack
  · exact .firstKey stack
  all_goals exact placed _ (by rw [Value.tokens])

theorem reached_step {ts : List Token} {b after : Builder} {t : Token} (reached : Reached ts b)
    (stepped : b.step t = some after) : Reached (ts ++ [t]) after := by
  cases reached with
  | value stack => exact reached_enter stepped
  | firstItem stack =>
    -- Any other token begins the first item, as if a comma had been before it.
    by_cases ends : t = .closeList
    · subst ends
      cases stepped
      simpa [Value.tokens,itemTokens] using reached_place (.list []) stack
    · have entered : enter (.item [] :: stack) t = some after := by
        cases t <;> first | exact stepped | exact absurd rfl ends
      simpa [begun_cons,begunFrame,begunList] using reached_enter entered
  | afterItem v items stack =>
    cases t <;> cases stepped
    · simpa [Value.tokens,itemTokens_append,begun_cons,begunFrame,begunList] using
        reached_place (.list (v :: items).reverse) stack
    · simpa [begun_cons,begunFrame,begunList] using Reached.value (.item (v :: items) :: stack)
  | firstKey stack =>
    cases t <;> cases stepped
    · simpa [Value.tokens,memberTokens] using reached_place (.record []) stack
    · exact .colon [] _ stack
  | key members stack =>
    cases t <;> cases stepped
    exact .colon members _ stack
  | colon members name stack =>
    cases t <;> cases stepped
    simpa [begun_cons,begunFrame] using Reached.value (.member members name :: stack)
  | afterMember members name v stack =>
    cases t <;> cases stepped
    · simpa [Value.tokens,memberTokens_append,begun_cons,begunFrame,begunRecord] using
        reached_place (.record ((name,v) :: members).reverse) stack
    · simpa [begun_cons,begunFrame,begunRecord] using Reached.key ((name,v) :: members) stack
  | done v => cases stepped

theorem reached_takes {ts us : List Token} {b after : Builder} (reached : Reached ts b) (taken : b.Takes us after) :
    Reached (ts ++ us) after := by
  induction us generalizing ts b with
  | nil =>
    cases taken
    simpa using reached
  | cons u us ih =>
    rw [Takes,List.foldlM_cons] at taken
    obtain ⟨next,stepped,rest⟩ := Option.bind_eq_some_iff.mp taken
    simpa using ih (reached_step reached stepped) rest

end Builder

/-- The tree of some tokens is the one that they are the tokens of. -/
theorem ofTokens?_eq_some_iff {ts : List Token} {v : Value} : ofTokens? ts = some v ↔ ts = v.tokens := by
  constructor
  · intro put
    obtain ⟨last,taken,finished⟩ := Option.bind_eq_some_iff.mp put
    have reached := Builder.reached_takes (.value []) taken
    cases reached <;> cases finished
    rfl
  · rintro rfl
    have taken : v.tokens.foldlM Builder.step (.value []) = some (.done v) := Builder.takes_tokens v []
    simp [ofTokens?,taken,Builder.finish?]

/-! ## Trees and texts -/

/-- Whether all that is meant to be a number in a tree is one. -/
def Value.WellFormed (v : Value) : Prop := ∀ t ∈ v.tokens, t.Valid

/-- A token that shows its end may stand before anything. -/
theorem isChain_cons_shown {t : Token} {us : List Token} (shown : t.isOpenEnded = false)
    (chained : us.IsChain Token.Apart) : (t :: us).IsChain Token.Apart := by
  refine List.isChain_cons.mpr ⟨fun u _ openEnded => ?_,chained⟩
  rw [shown] at openEnded
  cases openEnded

/-- Anything may stand before a sign. -/
theorem isChain_append_sign {ts us : List Token} {u : Token} (sign : u.isSign = true)
    (before : ts.IsChain Token.Apart) (behind : (u :: us).IsChain Token.Apart) :
    (ts ++ u :: us).IsChain Token.Apart := by
  refine List.isChain_append.mpr ⟨before,behind,?_⟩
  rintro t - _ ⟨⟩ -
  exact sign

theorem isChain_itemTokens {items : List Value} (chained : ∀ v ∈ items, v.tokens.IsChain Token.Apart) :
    (itemTokens items).IsChain Token.Apart := by
  induction items with
  | nil => exact .nil
  | cons v items ih =>
    obtain ⟨first,others⟩ := List.forall_mem_cons.mp chained
    cases items with
    | nil => rwa [itemTokens_singleton]
    | cons w items =>
      rw [itemTokens_cons_cons]
      exact isChain_append_sign rfl first (isChain_cons_shown rfl (ih others))

theorem isChain_memberTokens {members : List Member} (chained : ∀ m ∈ members, m.2.tokens.IsChain Token.Apart) :
    (memberTokens members).IsChain Token.Apart := by
  induction members with
  | nil => exact .nil
  | cons m members ih =>
    obtain ⟨first,others⟩ := List.forall_mem_cons.mp chained
    cases members with
    | nil =>
      rw [memberTokens_singleton]
      exact isChain_cons_shown rfl (isChain_cons_shown rfl first)
    | cons n members =>
      rw [memberTokens_cons_cons]
      refine isChain_cons_shown rfl (isChain_cons_shown rfl ?_)
      exact isChain_append_sign rfl first (isChain_cons_shown rfl (ih others))

/-- In a tree a sign follows every value. -/
theorem isChain_tokens (v : Value) : v.tokens.IsChain Token.Apart := by
  induction v using Value.induction with
  | list items ih =>
    rw [Value.tokens]
    exact isChain_cons_shown rfl (isChain_append_sign rfl (isChain_itemTokens ih) (.singleton _))
  | record members ih =>
    rw [Value.tokens]
    exact isChain_cons_shown rfl (isChain_append_sign rfl (isChain_memberTokens ih) (.singleton _))
  | _ =>
    rw [Value.tokens]
    exact .singleton _

/-- A tree is read from every text of its tokens, whatever their layout is and
    however their characters are escaped. -/
theorem read?_laid {v : Value} {s : String} (wellFormed : v.WellFormed) (laid : Laid v.tokens s.toList) : read? s = some v := by
  have scanned := tokens?_laid laid wellFormed (isChain_tokens v)
  simp [read?,scanned,ofTokens?_eq_some_iff]

/-- A tree is read back from its text. -/
theorem read?_write {v : Value} (wellFormed : v.WellFormed) : read? v.write = some v := by
  refine read?_laid wellFormed ?_
  rw [Value.write,String.toList_ofList]
  exact laid_chars v.tokens

/-- What is read from a text could have been written. -/
theorem wellFormed_of_read? {s : String} {v : Value} (found : read? s = some v) : v.WellFormed := by
  obtain ⟨ts,scanned,put⟩ := Option.bind_eq_some_iff.mp found
  have valid := valid_of_tokens? scanned
  rwa [ofTokens?_eq_some_iff.mp put] at valid

theorem valid_itemTokens {items : List Value} :
    (∀ t ∈ itemTokens items, t.Valid) ↔ ∀ v ∈ items, v.WellFormed := by
  induction items with
  | nil => simp [itemTokens]
  | cons v items ih =>
    cases items with
    | nil => simp [itemTokens_singleton,Value.WellFormed]
    | cons w items =>
      rw [itemTokens_cons_cons,List.forall_mem_append,List.forall_mem_cons,ih,List.forall_mem_cons (a := v)]
      simp only [Token.Valid,true_and]
      rfl

theorem valid_memberTokens {members : List Member} :
    (∀ t ∈ memberTokens members, t.Valid) ↔ ∀ m ∈ members, m.2.WellFormed := by
  induction members with
  | nil => simp [memberTokens]
  | cons m members ih =>
    cases members with
    | nil => simp [memberTokens_singleton,Value.WellFormed,Token.Valid]
    | cons n members =>
      rw [memberTokens_cons_cons,List.forall_mem_cons,List.forall_mem_cons,List.forall_mem_append,
        List.forall_mem_cons,ih,List.forall_mem_cons (a := m)]
      simp only [Token.Valid,true_and]
      rfl

theorem wellFormed_list {items : List Value} : (Value.list items).WellFormed ↔ ∀ v ∈ items, v.WellFormed := by
  rw [← valid_itemTokens]
  simp [Value.WellFormed,Value.tokens,Token.Valid,or_imp,forall_and]

theorem wellFormed_record {members : List Member} :
    (Value.record members).WellFormed ↔ ∀ m ∈ members, m.2.WellFormed := by
  rw [← valid_memberTokens]
  simp [Value.WellFormed,Value.tokens,Token.Valid,or_imp,forall_and]

@[simp] theorem wellFormed_string (s : String) : (Value.string s).WellFormed := by
  simp [Value.WellFormed,Value.string,Value.tokens,Token.Valid]

@[simp] theorem wellFormed_null : Value.null.WellFormed := by simp [Value.WellFormed,Value.tokens,Token.Valid]

@[simp] theorem wellFormed_bool (b : Bool) : (Value.bool b).WellFormed := by simp [Value.WellFormed,Value.tokens,Token.Valid]

@[simp] theorem wellFormed_strings (ss : List String) : (Value.strings ss).WellFormed := by
  rw [Value.strings,wellFormed_list,List.forall_mem_map]
  exact fun s _ => wellFormed_string s

@[simp] theorem wellFormed_ofMembers {ms : List (String × Value)} :
    (Value.ofMembers ms).WellFormed ↔ ∀ m ∈ ms, m.2.WellFormed := by
  rw [Value.ofMembers,wellFormed_record,List.forall_mem_map]

/-- What may be missing is well-formed if what is there is. -/
theorem wellFormed_elim {α : Type} {write : α → Value} (wellFormed : ∀ x, (write x).WellFormed) (x : Option α) :
    (x.elim .null write).WellFormed := by
  cases x with
  | none => exact wellFormed_null
  | some x => exact wellFormed x

@[simp] theorem wellFormed_optionalString (s : Option String) : (Value.optionalString s).WellFormed :=
  wellFormed_elim wellFormed_string s

end PortableDdl.Json
