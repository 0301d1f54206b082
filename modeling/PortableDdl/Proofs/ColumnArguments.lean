import PortableDdl.Proofs.CommandLineOptions

/-!
# The arguments of a column

In whatever order and form they are written, the arguments of the command for
columns give the name and the type, and everything else at most once. A length
and a precision exclude each other. A scale goes with a precision, but beside a
length it is taken too, and nothing comes of it. A number that does not fit is
refused.
-/

namespace PortableDdl

namespace Text

/-- Whether characters are digits, at least one, of some number. -/
structure Digits (cs : List Char) (n : Nat) : Prop where
  some : cs ≠ []
  digits : ∀ c ∈ cs, c.isDigit = true
  value : Nat.ofDigitChars 10 cs 0 = n

/-- Whether characters are a number of whatever size, with or without a sign.
    Behind a minus nothing but zero is one. -/
inductive NumberText : List Char → Nat → Prop
  | unsigned {cs : List Char} {n : Nat} : Digits cs n → NumberText cs n
  | positive {cs : List Char} {n : Nat} : Digits cs n → NumberText ('+' :: cs) n
  | zero {cs : List Char} : Digits cs 0 → NumberText ('-' :: cs) 0

variable {cs : List Char} {m : Nat} {n : UInt32}

theorem word32?_eq_some_iff : word32? m = some n ↔ m = n.toNat := by
  unfold word32?
  split
  · next fits => simp [← UInt32.toNat_inj]
  · next large =>
    have below := n.toNat_lt
    simp only [reduceCtorEq,false_iff]
    rintro rfl
    exact large below

theorem word32?_of_large (large : UInt32.size ≤ m) : word32? m = none := dif_neg (Nat.not_lt.mpr large)

theorem digits32?_of_digits (digits : Digits cs m) : digits32? cs = word32? m := by
  have all : cs.all Char.isDigit = true := List.all_eq_true.mpr digits.digits
  simp [digits32?,digits?,digits.some,all,digits.value]

theorem digits_of_digits32? (read : digits32? cs = some n) : Digits cs n.toNat := by
  obtain ⟨m,digits,fits⟩ := Option.bind_eq_some_iff.mp read
  simp only [digits?,Option.ite_none_right_eq_some,Bool.and_eq_true,Bool.not_eq_true',List.isEmpty_eq_false_iff,
    List.all_eq_true,Option.some.injEq] at digits
  obtain ⟨⟨some,all⟩,rfl⟩ := digits
  exact ⟨some,all,word32?_eq_some_iff.mp fits⟩

/-- A number is read as itself, if it fits. -/
theorem signed32?_of_number (number : NumberText cs m) : signed32? cs = word32? m := by
  cases number with
  | positive digits => exact digits32?_of_digits digits
  | zero digits =>
    rw [signed32?,digits32?_of_digits digits]
    rfl
  | unsigned digits =>
    rw [← digits32?_of_digits digits]
    unfold signed32?
    split
    · exact absurd (digits.digits '+' List.mem_cons_self) (by decide)
    · exact absurd (digits.digits '-' List.mem_cons_self) (by decide)
    · rfl

/-- Nothing but a number is read. -/
theorem number_of_signed32? (read : signed32? cs = some n) : NumberText cs n.toNat := by
  unfold signed32? at read
  split at read
  · exact .positive (digits_of_digits32? read)
  · obtain ⟨m,digits,zero⟩ := Option.bind_eq_some_iff.mp read
    simp only [Option.ite_none_right_eq_some,Option.some.injEq] at zero
    obtain ⟨rfl,rfl⟩ := zero
    exact .zero (digits_of_digits32? digits)
  · exact .unsigned (digits_of_digits32? read)

end Text

namespace CommandLine

/-- The texts that items give a setting, in their order. -/
def valuesOf {Flag Setting : Type} [DecidableEq Setting] (s : Setting) (items : List (Item Flag Setting)) : List String :=
  items.filterMap fun
    | .setting t v => if t = s then some v else none
    | _ => none

/-- The texts of items that stand for themselves, in their order. -/
def plainTexts {Flag Setting : Type} (items : List (Item Flag Setting)) : List String :=
  items.filterMap fun
    | .plain t | .command t _ => some t
    | _ => none

/-- Whether there is at most one text, and what has been read is what it means. -/
inductive AtMostOnce {α : Type} (means : String → α → Prop) : List String → Option α → Prop
  | never : AtMostOnce means [] none
  | once {text : String} {x : α} : means text x → AtMostOnce means [text] (some x)

/-- Whether a text is a number. -/
def MeansNumber (text : String) (n : UInt32) : Prop := Text.NumberText text.toList n.toNat

/-- Which length, precision and scale items ask for: one of the first two at
    most. -/
inductive LimitAsked (items : List (Item ColumnFlag ColumnSetting)) : Option UInt32 → Option UInt32 → Option UInt32 → Prop
  | nothing : valuesOf .limit items = [] → valuesOf .precision items = [] → valuesOf .scale items = [] →
      LimitAsked items none none none
  /-- A scale beside a length is a number, and nothing comes of it. -/
  | length {n : UInt32} {unused : Option UInt32} : AtMostOnce MeansNumber (valuesOf .limit items) (some n) →
      valuesOf .precision items = [] → AtMostOnce MeansNumber (valuesOf .scale items) unused →
      LimitAsked items (some n) none unused
  | precision {p : UInt32} {s : Option UInt32} : valuesOf .limit items = [] →
      AtMostOnce MeansNumber (valuesOf .precision items) (some p) →
      AtMostOnce MeansNumber (valuesOf .scale items) s → LimitAsked items none (some p) s

/-- Whether a column is the one that items ask for. -/
structure ColumnRequest.AskedBy (items : List (Item ColumnFlag ColumnSetting)) (r : ColumnRequest) : Prop where
  name : plainTexts items = [r.name]
  type : AtMostOnce (fun t x => ColumnType.parse t = .ok x) (valuesOf .type items) (some r.type)
  characterSet : AtMostOnce (fun t x => CharacterSet.parse t = .ok x) (valuesOf .charset items) r.characterSet
  limit : LimitAsked items r.limit r.precision r.scale
  defaultValue : valuesOf .defaultValue items = r.defaultValue.toList
  notNull : items.count (.flag .notNull) = r.notNull.toNat

namespace ColumnArguments

/-- Whether a setting is what some texts say. -/
def Has (a : ColumnArguments) (texts : List String) : ColumnSetting → Prop
  | .type => AtMostOnce (fun t x => ColumnType.parse t = .ok x) texts a.type
  | .charset => AtMostOnce (fun t x => CharacterSet.parse t = .ok x) texts a.charset
  | .limit => AtMostOnce MeansNumber texts a.limit
  | .precision => AtMostOnce MeansNumber texts a.precision
  | .scale => AtMostOnce MeansNumber texts a.scale
  | .defaultValue => AtMostOnce Eq texts a.defaultValue

/-- Whether arguments are what some items say. -/
structure Told (items : List (Item ColumnFlag ColumnSetting)) (a : ColumnArguments) : Prop where
  name : AtMostOnce Eq (plainTexts items) a.name
  settings : ∀ s, a.Has (valuesOf s items) s
  notNull : items.count (.flag .notNull) = a.notNull.toNat

end ColumnArguments

variable {a b : ColumnArguments} {items : List (Item ColumnFlag ColumnSetting)} {item : Item ColumnFlag ColumnSetting}

theorem AtMostOnce.concat {α : Type} {means : String → α → Prop} {texts : List String} {text : String} {x : α}
    (unsaid : AtMostOnce means texts none) (said : means text x) : AtMostOnce means (texts ++ [text]) (some x) := by
  cases unsaid
  exact .once said

/-- What has not been read had no text, so that the next one counts. -/
theorem atMostOnce_of_once {α : Type} {means : String → α → Prop} {texts : List String} {before : Option α}
    {long value : String} {read? : String → Option α} {x : α} (told : AtMostOnce means texts before)
    (sound : ∀ x, read? value = some x → means value x) (read : once long before read? value = .ok x) :
    AtMostOnce means (texts ++ [value]) (some x) := by
  obtain ⟨rfl,found⟩ := once_ok_iff.mp read
  exact told.concat (sound x found)

theorem valuesOf_append {Flag Setting : Type} [DecidableEq Setting] (s : Setting) (xs ys : List (Item Flag Setting)) :
    valuesOf s (xs ++ ys) = valuesOf s xs ++ valuesOf s ys := List.filterMap_append

theorem plainTexts_append {Flag Setting : Type} (xs ys : List (Item Flag Setting)) :
    plainTexts (xs ++ ys) = plainTexts xs ++ plainTexts ys := List.filterMap_append

namespace ColumnArguments

theorem has_set {s t : ColumnSetting} {value : String} {texts : List String} (has : a.Has texts t)
    (set : a.set value s = .ok b) : b.Has (texts ++ valuesOf t [(.setting s value : Item ColumnFlag ColumnSetting)]) t := by
  by_cases same : s = t
  · subst same
    have alone : valuesOf s [(.setting s value : Item ColumnFlag ColumnSetting)] = [value] := by simp [valuesOf]
    rw [alone]
    cases s with
    | type | charset =>
      obtain ⟨x,read,rfl⟩ := map_ok_iff.mp set
      exact atMostOnce_of_once has (fun _ => toOption_eq_some_iff.mp) read
    | limit | precision | scale =>
      obtain ⟨x,read,rfl⟩ := map_ok_iff.mp set
      exact atMostOnce_of_once has (fun _ => Text.number_of_signed32?) read
    | defaultValue =>
      obtain ⟨x,read,rfl⟩ := map_ok_iff.mp set
      exact atMostOnce_of_once has (fun _ => Option.some.inj) read
  · have silent : valuesOf t [(.setting s value : Item ColumnFlag ColumnSetting)] = [] := by simp [valuesOf,same]
    rw [silent,List.append_nil]
    cases s <;> obtain ⟨x,read,rfl⟩ := map_ok_iff.mp set <;> cases t <;> first | exact has | exact absurd rfl same

theorem set_others {s : ColumnSetting} {value : String} (set : a.set value s = .ok b) :
    b.name = a.name ∧ b.notNull = a.notNull := by
  cases s <;> obtain ⟨x,read,rfl⟩ := map_ok_iff.mp set <;> exact ⟨rfl,rfl⟩

theorem add_text {text : String} (read : (if a.name.isSome then .error (.fault (.unexpectedArgument text))
      else .ok { a with name := some text } : Except Interruption ColumnArguments) = .ok b) :
    a.name = none ∧ b = { a with name := some text } := by
  split at read
  · cases read
  · next missing => exact ⟨by simpa using missing,(Except.ok.inj read).symm⟩

/-- What an item can do that does not end the reading. -/
theorem add_cases (added : a.add item = .ok b) :
    (item = .flag .notNull ∧ a.notNull = false ∧ b = { a with notNull := true }) ∨
    (∃ s value, item = .setting s value ∧ a.set value s = .ok b) ∨
    ∃ text, (item = .plain text ∨ ∃ rest, item = .command text rest) ∧ a.name = none ∧
      b = { a with name := some text } := by
  cases item with
  | flag f =>
    cases f with
    | help => cases added
    | notNull =>
      obtain ⟨_,once,rfl⟩ := map_ok_iff.mp added
      obtain ⟨unset,rfl⟩ := onceSet_ok_iff.mp once
      exact .inl ⟨rfl,unset,rfl⟩
  | setting s value => exact .inr (.inl ⟨s,value,rfl,added⟩)
  | plain text => exact .inr (.inr ⟨text,.inl rfl,add_text added⟩)
  | command text rest => exact .inr (.inr ⟨text,.inr ⟨rest,rfl⟩,add_text added⟩)
  | fault f => cases added

/-- The settings are read from their own options alone. -/
theorem has_notNull {texts : List String} {s : ColumnSetting} {c : Bool} :
    ({ a with notNull := c } : ColumnArguments).Has texts s ↔ a.Has texts s := by
  cases s <;> exact Iff.rfl

theorem has_name {texts : List String} {s : ColumnSetting} {name : Option String} :
    ({ a with name } : ColumnArguments).Has texts s ↔ a.Has texts s := by
  cases s <;> exact Iff.rfl

/-- What one more item says is added to what the others say. -/
theorem told_add (told : Told items a) (added : a.add item = .ok b) : Told (items ++ [item]) b := by
  rcases add_cases added with ⟨rfl,unset,rfl⟩ | ⟨s,value,rfl,set⟩ | ⟨text,written,missing,rfl⟩
  · have noText : plainTexts [(.flag .notNull : Item ColumnFlag ColumnSetting)] = [] := rfl
    have noValue (s) : valuesOf s [(.flag .notNull : Item ColumnFlag ColumnSetting)] = [] := rfl
    refine ⟨?_,fun s => has_notNull.mpr ?_,?_⟩
    · simpa only [plainTexts_append,noText,List.append_nil] using told.name
    · simpa only [valuesOf_append,noValue,List.append_nil] using told.settings s
    · rw [List.count_append,told.notNull,unset]
      rfl
  · obtain ⟨name,notNull⟩ := set_others set
    have noText : plainTexts [(.setting s value : Item ColumnFlag ColumnSetting)] = [] := rfl
    refine ⟨?_,fun t => ?_,?_⟩
    · simpa only [plainTexts_append,noText,List.append_nil,name] using told.name
    · rw [valuesOf_append]
      exact has_set (told.settings t) set
    · rw [List.count_append,told.notNull,notNull]
      rfl
  · have itself : plainTexts [item] = [text] ∧ (∀ s, valuesOf s [item] = []) ∧ [item].count (.flag .notNull) = 0 := by
      rcases written with rfl | ⟨rest,rfl⟩ <;> exact ⟨rfl,fun _ => rfl,rfl⟩
    obtain ⟨ownText,noValue,noFlag⟩ := itself
    have before := told.name
    rw [missing] at before
    refine ⟨?_,fun s => has_name.mpr ?_,?_⟩
    · rw [plainTexts_append,ownText]
      exact before.concat rfl
    · simpa only [valuesOf_append,noValue,List.append_nil] using told.settings s
    · rw [List.count_append,told.notNull,noFlag]
      rfl

theorem told_items (read : items.foldlM add {} = .ok b) : Told items b := by
  induction items using List.reverseRecOn generalizing b with
  | nil =>
    cases read
    exact ⟨.never,fun s => by cases s <;> exact .never,rfl⟩
  | append_singleton items item ih =>
    obtain ⟨a,before,added⟩ := foldlM_concat_ok_iff.mp read
    exact told_add (ih before) added

theorem eq_nil_of_unsaid {α : Type} {means : String → α → Prop} {texts : List String}
    (unsaid : AtMostOnce means texts none) : texts = [] := by
  cases unsaid
  rfl

theorem texts_of_unread {texts : List String} {x : Option String} (told : AtMostOnce Eq texts x) : texts = x.toList := by
  cases told with
  | never => rfl
  | once same => exact congrArg ([·]) same

theorem limitAsked (told : Told items a) (checked : a.checkLimits = .ok ()) :
    LimitAsked items a.limit a.precision a.scale := by
  have length := told.settings .limit
  have precision := told.settings .precision
  have scale := told.settings .scale
  simp only [Has] at length precision scale
  cases someLength : a.limit with
  | some n =>
    cases somePrecision : a.precision with
    | some p => simp [checkLimits,someLength,somePrecision] at checked
    | none =>
      rw [someLength] at length
      rw [somePrecision] at precision
      exact .length length (eq_nil_of_unsaid precision) scale
  | none =>
    rw [someLength] at length
    cases somePrecision : a.precision with
    | some p =>
      rw [somePrecision] at precision
      exact .precision (eq_nil_of_unsaid length) precision scale
    | none =>
      rw [somePrecision] at precision
      cases someScale : a.scale with
      | some s => simp [checkLimits,someLength,somePrecision,someScale] at checked
      | none =>
        rw [someScale] at scale
        exact .nothing (eq_nil_of_unsaid length) (eq_nil_of_unsaid precision) (eq_nil_of_unsaid scale)

theorem askedBy_of_request (told : Told items a) {r : ColumnRequest} (found : a.request = .ok r) : r.AskedBy items := by
  obtain ⟨name,named,found⟩ := bind_ok_iff.mp found
  obtain ⟨type,typed,found⟩ := bind_ok_iff.mp found
  obtain ⟨_,limited,found⟩ := bind_ok_iff.mp found
  cases found
  have hasName := told.name
  have hasType := told.settings .type
  have hasDefault := told.settings .defaultValue
  simp only [Has,required_ok_iff.mp named,required_ok_iff.mp typed] at hasName hasType hasDefault
  refine ⟨?_,hasType,told.settings .charset,limitAsked told limited,?_,told.notNull⟩
  · exact texts_of_unread hasName
  · exact texts_of_unread hasDefault

end ColumnArguments

theorem askedBy_of_readColumn {rest : List String} {c : Command} (read : readColumn rest = .ok c) :
    ∃ r, c = .column r ∧ r.AskedBy (columnSyntax.items rest) := by
  obtain ⟨a,told,read⟩ := bind_ok_iff.mp read
  obtain ⟨r,asked,read⟩ := bind_ok_iff.mp read
  cases read
  exact ⟨r,rfl,ColumnArguments.askedBy_of_request (ColumnArguments.told_items told) asked⟩

/-! ## The command -/

theorem readDropIndex_ne_column {rest : List String} {r : ColumnRequest} : readDropIndex rest ≠ .ok (.column r) := by
  intro read
  obtain ⟨texts,_,read⟩ := bind_ok_iff.mp read
  split at read <;> cases read

theorem readOnDelete_ne_column {rest : List String} {r : ColumnRequest} : readOnDelete rest ≠ .ok (.column r) := by
  intro read
  obtain ⟨action,_,read⟩ := bind_ok_iff.mp read
  cases read

theorem readPrivileges_ne_column {verb : GrantVerb} {rest : List String} {r : ColumnRequest} :
    readPrivileges verb rest ≠ .ok (.column r) := by
  intro read
  obtain ⟨a,_,read⟩ := bind_ok_iff.mp read
  obtain ⟨table,_,read⟩ := bind_ok_iff.mp read
  dsimp only at read
  split at read
  · cases read
  · split at read <;> cases read

/-- No other command writes a column. -/
theorem word_of_column {word : String} {rest : List String} {r : ColumnRequest}
    (read : readCommand word rest = .ok (.column r)) : word = "column" ∧ readColumn rest = .ok (.column r) := by
  rw [readCommand] at read
  split at read
  · unfold readHelp at read
    split at read
    · cases read
    · split at read <;> cases read
  · split at read
    · next reader found =>
      obtain ⟨before,after,split,_⟩ := List.lookup_eq_some_iff.mp found
      have listed : (word,reader) ∈ commands := by simp [split]
      simp only [commands,List.mem_cons,Prod.mk.injEq,List.not_mem_nil,or_false] at listed
      rcases listed with ⟨rfl,rfl⟩ | ⟨rfl,rfl⟩ | ⟨rfl,rfl⟩ | ⟨rfl,rfl⟩ | ⟨rfl,rfl⟩
      · exact ⟨rfl,read⟩
      · exact absurd read readDropIndex_ne_column
      · exact absurd read readPrivileges_ne_column
      · exact absurd read readPrivileges_ne_column
      · exact absurd read readOnDelete_ne_column
    · cases read

/-- A command has been read from the arguments behind its word. -/
theorem command_of_items {items : List (Item GlobalFlag GlobalSetting)} {i : Invocation} {c : Command}
    (read : items.foldlM Invocation.add {} = .ok i) (found : i.command = some c) :
    ∃ word rest, .command word rest ∈ items ∧ readCommand word rest = .ok c := by
  induction items using List.reverseRecOn generalizing i with
  | nil =>
    cases read
    cases found
  | append_singleton items item ih =>
    obtain ⟨j,before,added⟩ := foldlM_concat_ok_iff.mp read
    have earlier (same : j.command = some c) :
        ∃ word rest, .command word rest ∈ items ++ [item] ∧ readCommand word rest = .ok c := by
      obtain ⟨word,rest,listed,readRest⟩ := ih before same
      exact ⟨word,rest,List.mem_append_left _ listed,readRest⟩
    cases item with
    | flag f =>
      obtain ⟨o,-,rfl⟩ := map_ok_iff.mp added
      exact earlier found
    | setting s v =>
      obtain ⟨o,-,rfl⟩ := map_ok_iff.mp added
      exact earlier found
    | command word rest =>
      obtain ⟨d,readRest,rfl⟩ := map_ok_iff.mp added
      cases found
      exact ⟨word,rest,by simp,readRest⟩
    | plain t => cases added
    | fault f => cases added

theorem askedBy_of_read {args : List String} {environment : String → Option String} {o : GlobalOptions} {r : ColumnRequest}
    (read : Invocation.ofArguments args environment = .ok (o,.column r)) :
    ∃ rest, .command "column" rest ∈ globalSyntax.items args ∧ r.AskedBy (columnSyntax.items rest) := by
  obtain ⟨i,items,read⟩ := bind_ok_iff.mp read
  obtain ⟨c,present,read⟩ := bind_ok_iff.mp read
  obtain ⟨p,_,read⟩ := bind_ok_iff.mp read
  cases read
  obtain ⟨word,rest,listed,read⟩ := command_of_items items (required_ok_iff.mp present)
  obtain ⟨rfl,read⟩ := word_of_column read
  obtain ⟨_,same,asked⟩ := askedBy_of_readColumn read
  cases same
  exact ⟨rest,listed,asked⟩

theorem ofArguments_ne_ok_of_large {args rest : List String} {environment : String → Option String} {s : ColumnSetting}
    {text : String} {n : Nat} (command : .command "column" rest ∈ globalSyntax.items args)
    (number : s ∈ [.limit,.precision,.scale]) (said : .setting s text ∈ columnSyntax.items rest)
    (means : Text.NumberText text.toList n) (large : UInt32.size ≤ n) (result : GlobalOptions × Command) :
    Invocation.ofArguments args environment ≠ .ok result := by
  intro read
  obtain ⟨i,items,_⟩ := bind_ok_iff.mp read
  obtain ⟨_,_,added⟩ := foldlM_ok_of_mem items command
  obtain ⟨c,readRest,_⟩ := map_ok_iff.mp added
  obtain ⟨a,columnItems,_⟩ := bind_ok_iff.mp (show readColumn rest = .ok c from readRest)
  obtain ⟨before,_,set⟩ := foldlM_ok_of_mem columnItems said
  have unread : Text.signed32? text.toList = none := by
    rw [Text.signed32?_of_number means,Text.word32?_of_large large]
  simp only [List.mem_cons,List.not_mem_nil,or_false] at number
  rcases number with rfl | rfl | rfl <;> obtain ⟨x,found,_⟩ := map_ok_iff.mp set <;>
    cases unread.symm.trans (once_ok_iff.mp found).2

end CommandLine

end PortableDdl
