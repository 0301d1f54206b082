import PortableDdl.Proofs.CommandLineOptions
import PortableDdl.Proofs.WordForms

/-!
# How arguments may be written

Arguments that are whole, with the value of every setting and no command among
them, are read on their own, whatever follows. The value of a setting may be
written in five ways, which all ask for the same, and a command gets the very
arguments that follow its word.
-/

namespace PortableDdl.CommandLine

variable {Flag Setting : Type} {x : ArgumentSyntax Flag Setting} {s : Setting}

/-- Whether an item says nothing of the arguments behind it. -/
def Item.Settled : Item Flag Setting → Prop
  | .command _ _ => False
  | .fault .missingValue => False
  | _ => True

theorem itemsAfter_option (s : Setting) {arg : String} (option : ArgumentSyntax.looksLikeOption arg = true)
    (rest : List String) : x.itemsAfter (some s) (arg :: rest) = [.fault .missingValue] := by
  cases rest <;> exact if_pos option

/-- The value of a setting is read at its place, unless a command follows it. -/
theorem itemsAfter_value (s : Setting) {arg : String} (plain : ¬ ArgumentSyntax.looksLikeOption arg = true)
    {rest : List String} (noCommand : ∀ next ∈ rest.head?, next ∉ x.commands) :
    x.itemsAfter (some s) (arg :: rest) = .setting s arg :: x.items rest := by
  cases rest with
  | nil => exact if_neg plain
  | cons next rest =>
    have other : ¬ x.commands.contains next = true := by simpa using noCommand next rfl
    exact (if_neg plain).trans (if_neg other)

theorem itemsAfter_value_command (s : Setting) {arg : String} (plain : ¬ ArgumentSyntax.looksLikeOption arg = true)
    {word : String} (command : word ∈ x.commands) (rest : List String) :
    x.itemsAfter (some s) (arg :: word :: rest) = [.command word rest,.setting s arg] :=
  (if_neg plain).trans (if_pos (List.contains_iff_mem.mpr command))

theorem items_cons (arg : String) (rest : List String) :
    x.items (arg :: rest) =
      if x.commands.contains arg then [.command arg rest]
      else if arg = "--" then rest.map .plain
      else (x.readArgument arg).1 ++ x.itemsAfter (x.readArgument arg).2 rest := rfl

theorem items_command {word : String} (command : word ∈ x.commands) (rest : List String) :
    x.items (word :: rest) = [.command word rest] := by
  rw [items_cons,if_pos (List.contains_iff_mem.mpr command)]

/-- Arguments that do not end the options, begin no command and hold the value
    of each setting are read before a command as they are alone, but for a last
    value that is an argument of its own: it comes behind the command. -/
theorem itemsAfter_command {pending : Option Setting} {args : List String} {word : String} (goesOn : "--" ∉ args)
    (settled : ∀ i ∈ x.itemsAfter pending args, i.Settled) (command : word ∈ x.commands) (rest : List String) :
    ∃ before late, x.itemsAfter pending args = before ++ late ∧
      x.itemsAfter pending (args ++ word :: rest) = before ++ .command word rest :: late ∧
      ∀ i ∈ late, ∃ s v, i = .setting s v := by
  induction args generalizing pending with
  | nil =>
    cases pending with
    | none => exact ⟨[],[],rfl,items_command command rest,nofun⟩
    | some s => exact absurd (settled _ List.mem_cons_self) id
  | cons arg args ih =>
    obtain ⟨notEnd,later⟩ := List.ne_and_not_mem_of_not_mem_cons goesOn
    cases pending with
    | some s =>
      by_cases option : ArgumentSyntax.looksLikeOption arg = true
      · rw [itemsAfter_option s option] at settled
        exact absurd (settled _ List.mem_cons_self) id
      · cases args with
        | nil =>
          refine ⟨[],[.setting s arg],?_,?_,by simp⟩
          · exact itemsAfter_value s option (by simp)
          · exact itemsAfter_value_command s option command rest
        | cons next args =>
          have noCommand : next ∉ x.commands := by
            intro listed
            rw [itemsAfter_value_command s option listed] at settled
            exact settled _ List.mem_cons_self
          have value (more : List String) :
              x.itemsAfter (some s) (arg :: next :: more) = .setting s arg :: x.items (next :: more) :=
            itemsAfter_value s option (by simpa using noCommand)
          rw [value] at settled
          obtain ⟨before,late,alone,whole,settings⟩ :=
            ih later fun i member => settled i (List.mem_cons_of_mem _ member)
          exact ⟨.setting s arg :: before,late,(value args).trans (congrArg _ alone),
            (value (args ++ word :: rest)).trans (congrArg _ whole),settings⟩
    | none =>
      change ∀ i ∈ x.items (arg :: args), _ at settled
      rw [items_cons] at settled
      by_cases begins : x.commands.contains arg = true
      · rw [if_pos begins] at settled
        exact absurd (settled _ List.mem_cons_self) id
      · have read (more : List String) : x.itemsAfter none (arg :: more) =
            (x.readArgument arg).1 ++ x.itemsAfter (x.readArgument arg).2 more :=
          (if_neg begins).trans (if_neg (Ne.symm notEnd))
        rw [if_neg begins,if_neg (Ne.symm notEnd)] at settled
        obtain ⟨before,late,alone,whole,settings⟩ :=
          ih later fun i member => settled i (List.mem_append_right _ member)
        refine ⟨(x.readArgument arg).1 ++ before,late,?_,?_,settings⟩
        · rw [read,alone,List.append_assoc]
        · rw [List.cons_append,read,whole,List.append_assoc]

/-- Whether a text stands for itself wherever it is written. Behind a letter an
    equals sign would be lost. -/
structure Ordinary (text : String) : Prop where
  nonempty : text ≠ ""
  noHyphen : text.toList.head? ≠ some '-'
  noEquals : text.toList.head? ≠ some '='

instance (text : String) : Decidable (Ordinary text) :=
  decidable_of_iff (text ≠ "" ∧ text.toList.head? ≠ some '-' ∧ text.toList.head? ≠ some '=')
    ⟨fun ⟨n,h,e⟩ => ⟨n,h,e⟩,fun ⟨n,h,e⟩ => ⟨n,h,e⟩⟩

theorem Ordinary.begins {text : String} (ordinary : Ordinary text) : ∃ c cs, text.toList = c :: cs ∧ c ≠ '=' := by
  cases chars : text.toList with
  | nil => exact absurd (String.toList_eq_nil_iff.mp chars) ordinary.nonempty
  | cons c cs =>
    refine ⟨c,cs,rfl,?_⟩
    rintro rfl
    exact ordinary.noEquals (congrArg List.head? chars)

/-- The ways to write a setting with its value. -/
inductive ValueForm where
  | letterApart
  | letterJoined
  | letterEquals
  | wordApart
  | wordEquals
deriving DecidableEq, Repr

/-- The arguments that give a setting its value, by its letter or by its word. -/
def ValueForm.arguments (letter : Char) (long value : String) : ValueForm → List String
  | .letterApart => ["-" ++ String.singleton letter,value]
  | .letterJoined => ["-" ++ String.singleton letter ++ value]
  | .letterEquals => ["-" ++ String.singleton letter ++ "=" ++ value]
  | .wordApart => ["--" ++ long,value]
  | .wordEquals => ["--" ++ long ++ "=" ++ value]

/-- Whether a letter and a word stand for a setting, where no command is expected. -/
structure Names (x : ArgumentSyntax Flag Setting) (s : Setting) (letter : Char) (long : String) : Prop where
  short : x.ofShort? letter = some (.setting s)
  word : x.ofLong? long = some (.setting s)
  noHyphen : letter ≠ '-'
  noEquals : '=' ∉ long.toList
  nonempty : long ≠ ""
  noCommand : x.commands = []

variable {letter : Char} {long value : String}

theorem readArgument_short {arg : String} {c : Char} {cs : List Char} (chars : arg.toList = '-' :: c :: cs)
    (noHyphen : c ≠ '-') : x.readArgument arg = x.readShort (c :: cs) := by
  unfold ArgumentSyntax.readArgument
  rw [chars]
  split
  · next same => exact absurd (List.cons.inj (List.cons.inj same).2).1 noHyphen
  · next same => rw [← (List.cons.inj same).2]
  · next other => exact absurd rfl (other c cs)

theorem readArgument_word {arg : String} {text : List Char} (chars : arg.toList = '-' :: '-' :: text) :
    x.readArgument arg =
      match Text.cutFirst? '=' text with
      | some (word,v) => x.readLong (String.ofList word) (some (String.ofList v))
      | none => x.readLong (String.ofList text) none := by
  unfold ArgumentSyntax.readArgument
  rw [chars]
  rfl

theorem readArgument_plain {arg : String} (noHyphen : arg.toList.head? ≠ some '-') :
    x.readArgument arg = ([.plain arg],none) := by
  unfold ArgumentSyntax.readArgument
  split
  · next chars => exact absurd (congrArg List.head? chars) noHyphen
  · next chars => exact absurd (congrArg List.head? chars) noHyphen
  · rfl

theorem looksLikeOption_of_plain {arg : String} (noHyphen : arg.toList.head? ≠ some '-') :
    ArgumentSyntax.looksLikeOption arg = false := by
  unfold ArgumentSyntax.looksLikeOption
  split
  · next chars => exact absurd (congrArg List.head? chars) noHyphen
  · rfl

theorem attached_of_ne {c : Char} {cs : List Char} (noEquals : c ≠ '=') :
    ArgumentSyntax.attached (c :: cs) = c :: cs := by
  unfold ArgumentSyntax.attached
  split
  · next same => exact absurd (List.cons.inj same).1 noEquals
  · rfl

/-- What stands behind the letter of a setting is its value, if there is
    anything. -/
theorem readShort_setting (short : x.ofShort? letter = some (.setting s)) (rest : List Char) :
    x.readShort (letter :: rest) =
      if rest.isEmpty then ([],some s) else ([.setting s (String.ofList (ArgumentSyntax.attached rest))],none) := by
  rw [ArgumentSyntax.readShort,short]

theorem items_option (names : Names x s letter long) {arg : String} (notEnd : arg ≠ "--") (rest : List String) :
    x.items (arg :: rest) = (x.readArgument arg).1 ++ x.itemsAfter (x.readArgument arg).2 rest := by
  have noCommand : ¬ x.commands.contains arg = true := by simp [names.noCommand]
  rw [items_cons,if_neg noCommand,if_neg notEnd]

theorem items_joined (names : Names x s letter long) {arg : String} (notEnd : arg ≠ "--")
    (read : x.readArgument arg = ([.setting s value],none)) (rest : List String) :
    x.items (arg :: rest) = .setting s value :: x.items rest := by
  rw [items_option names notEnd,read]
  rfl

theorem items_apart (names : Names x s letter long) (ordinary : Ordinary value) {arg : String} (notEnd : arg ≠ "--")
    (read : x.readArgument arg = ([],some s)) (rest : List String) :
    x.items (arg :: value :: rest) = .setting s value :: x.items rest := by
  have plain : ¬ ArgumentSyntax.looksLikeOption value = true := by simp [looksLikeOption_of_plain ordinary.noHyphen]
  rw [items_option names notEnd,read,itemsAfter_value s plain (by simp [names.noCommand])]
  rfl

theorem items_plain {text : String} (ordinary : Ordinary text) (noCommand : text ∉ x.commands) (rest : List String) :
    x.items (text :: rest) = .plain text :: x.items rest := by
  have notEnd : text ≠ "--" := by
    rintro rfl
    exact ordinary.noHyphen rfl
  rw [items_cons,if_neg (List.contains_iff_mem.not.mpr noCommand),if_neg notEnd,readArgument_plain ordinary.noHyphen]
  rfl

theorem ne_end_of_toList {arg : String} {text : List Char} (chars : arg.toList = text) (other : text ≠ ['-','-']) :
    arg ≠ "--" := by
  rintro rfl
  exact other chars.symm

/-- However a setting and its value are written, they ask for the same. -/
theorem items_arguments (names : Names x s letter long) (ordinary : Ordinary value) (form : ValueForm)
    (rest : List String) : x.items (form.arguments letter long value ++ rest) = .setting s value :: x.items rest := by
  obtain ⟨c,cs,chars,noEquals⟩ := ordinary.begins
  have text : String.ofList (c :: cs) = value := by rw [← chars,String.ofList_toList]
  cases form with
  | letterApart =>
    have arg : ("-" ++ String.singleton letter).toList = ['-',letter] := by simp
    refine items_apart names ordinary (ne_end_of_toList arg (by simp [names.noHyphen])) ?_ rest
    rw [readArgument_short arg names.noHyphen,readShort_setting names.short]
    rfl
  | letterJoined =>
    have arg : ("-" ++ String.singleton letter ++ value).toList = '-' :: letter :: c :: cs := by simp [chars]
    refine items_joined names (ne_end_of_toList arg (by simp)) ?_ rest
    rw [readArgument_short arg names.noHyphen,readShort_setting names.short,attached_of_ne noEquals,text]
    rfl
  | letterEquals =>
    -- One equals sign is dropped, so that the value could even begin with another.
    have arg : ("-" ++ String.singleton letter ++ "=" ++ value).toList = '-' :: letter :: '=' :: c :: cs := by simp [chars]
    refine items_joined names (ne_end_of_toList arg (by simp)) ?_ rest
    rw [readArgument_short arg names.noHyphen,readShort_setting names.short,ArgumentSyntax.attached,text]
    rfl
  | wordApart =>
    have arg : ("--" ++ long).toList = '-' :: '-' :: long.toList := by simp
    have more : long.toList ≠ [] := fun nothing => names.nonempty (String.toList_eq_nil_iff.mp nothing)
    refine items_apart names ordinary (ne_end_of_toList arg (by simp [more])) ?_ rest
    rw [readArgument_word arg,Text.cutFirst?_eq_none_iff.mpr names.noEquals]
    simp [ArgumentSyntax.readLong,names.word]
  | wordEquals =>
    have arg : ("--" ++ long ++ "=" ++ value).toList = '-' :: '-' :: (long.toList ++ '=' :: c :: cs) := by simp [chars]
    refine items_joined names (ne_end_of_toList arg (by simp)) ?_ rest
    -- The cut is at the first equals sign, which is not one of the value.
    rw [readArgument_word arg,Text.cutFirst?_of_append names.noEquals]
    simp [ArgumentSyntax.readLong,names.word,text]

/-- Whether arguments are nothing but options, which come to the given ones with
    the environment. -/
structure Leading (args : List String) (environment : String → Option String) (o : GlobalOptions) : Prop where
  goesOn : "--" ∉ args
  read : ∃ i, (globalSyntax.items args).foldlM Invocation.add {} = .ok i ∧ i.command = none ∧
    i.options.inEnvironment environment = .ok o

theorem settled_of_add {i j : Invocation} {item : Item GlobalFlag GlobalSetting} (added : i.add item = .ok j)
    (without : j.command = none) : i.command = none ∧ item.Settled := by
  cases item with
  | flag f =>
    obtain ⟨o,-,rfl⟩ := map_ok_iff.mp added
    exact ⟨without,trivial⟩
  | setting s v =>
    obtain ⟨o,-,rfl⟩ := map_ok_iff.mp added
    exact ⟨without,trivial⟩
  | command word args =>
    obtain ⟨c,-,rfl⟩ := map_ok_iff.mp added
    cases without
  | plain t => cases added
  | fault f => cases added

theorem settled_of_items {items : List (Item GlobalFlag GlobalSetting)} {i j : Invocation}
    (read : items.foldlM Invocation.add i = .ok j) (without : j.command = none) :
    i.command = none ∧ ∀ item ∈ items, item.Settled := by
  induction items generalizing i with
  | nil =>
    cases read
    exact ⟨without,nofun⟩
  | cons item items ih =>
    obtain ⟨k,added,rest⟩ := bind_ok_iff.mp read
    obtain ⟨before,later⟩ := ih rest
    obtain ⟨first,settled⟩ := settled_of_add added before
    exact ⟨first,List.forall_mem_cons.mpr ⟨settled,later⟩⟩

theorem add_setting (i : Invocation) (c : Command) (s : GlobalSetting) (v : String) :
    ({ i with command := some c } : Invocation).add (.setting s v) =
      (i.add (.setting s v)).map fun j => { j with command := some c } := by
  cases set : i.options.set v s <;> simp [Invocation.add,set,Except.map]

/-- It makes no difference whether settings are read before a command or behind
    it. -/
theorem foldlM_settings {items : List (Item GlobalFlag GlobalSetting)}
    (settings : ∀ item ∈ items, ∃ s v, item = .setting s v) (i : Invocation) (c : Command) :
    items.foldlM Invocation.add { i with command := some c } =
      (items.foldlM Invocation.add i).map fun j => { j with command := some c } := by
  induction items generalizing i with
  | nil => rfl
  | cons item items ih =>
    obtain ⟨⟨s,v,rfl⟩,others⟩ := List.forall_mem_cons.mp settings
    rw [List.foldlM_cons,List.foldlM_cons,add_setting]
    cases i.add (.setting s v) with
    | error e => rfl
    | ok j => exact ih others j

/-- Behind its options, a command line is what its command makes of the arguments
    behind it. -/
theorem Leading.ofArguments {options : List String} {environment : String → Option String} {o : GlobalOptions}
    {word : String} (leading : Leading options environment o) (command : word ∈ commandWords) (args : List String) :
    Invocation.ofArguments (options ++ word :: args) environment = (readCommand word args).map fun c => (o,c) := by
  obtain ⟨i,read,without,inEnvironment⟩ := leading.read
  have settled := (settled_of_items read without).2
  obtain ⟨before,late,alone,whole,settings⟩ :=
    itemsAfter_command leading.goesOn settled (show word ∈ globalSyntax.commands from command) args
  rw [ArgumentSyntax.items,alone,List.foldlM_append] at read
  obtain ⟨j,first,second⟩ := bind_ok_iff.mp read
  rw [Invocation.ofArguments,ArgumentSyntax.items,whole,List.foldlM_append,first]
  cases asked : readCommand word args with
  | error e => simp [bind,Except.bind,Invocation.add,asked,Except.map]
  | ok c =>
    have added : j.add (.command word args) = .ok { j with command := some c } := by
      simp [Invocation.add,asked,Except.map]
    simp [bind,Except.bind,added,foldlM_settings settings,second,Except.map,pure,Except.pure,required,inEnvironment]

end PortableDdl.CommandLine
