import PortableDdl.CommandLine.Run
import PortableDdl.Proofs.ConfigurationSources

/-!
# What the options say

Each setting before the command comes from its option, or else from its variable,
and a flag from the command line alone. The options overrule the configuration
file, which has to make sense by itself, and what they leave of it is checked
again.
-/

namespace PortableDdl.CommandLine

/-- The value that an item gives a setting. -/
def Item.valueOf (s : GlobalSetting) : Item GlobalFlag GlobalSetting → Option String
  | .setting t v => if t = s then some v else none
  | _ => none

/-- The value that the options give a setting. -/
def given (s : GlobalSetting) (items : List (Item GlobalFlag GlobalSetting)) : Option String :=
  items.findSome? (Item.valueOf s)

/-- The variable that stands for a setting. -/
def GlobalSetting.variable : GlobalSetting → String
  | .config => "OXIDE_DDL_CONFIG"
  | .dialect => "OXIDE_DDL_DIALECT"
  | .schema => "OXIDE_DDL_SCHEMA"

/-- Whether something has been read from a text, or is missing like the text. -/
def ReadFrom {α : Type} (read? : String → Option α) (text : Option String) (x : Option α) : Prop :=
  text.map read? = x.map some

namespace GlobalOptions

/-- Whether a setting is what a text says, if there is one. -/
def Has (o : GlobalOptions) (text : Option String) : GlobalSetting → Prop
  | .config => ReadFrom path? text o.config
  | .dialect => ReadFrom dialect? text o.dialect
  | .schema => ReadFrom some text o.schema

/-- Whether a flag stands among the options. The others end the reading. -/
def raised (o : GlobalOptions) : GlobalFlag → Bool
  | .omitNoAction => o.omitNoAction
  | .verbose => o.verbose
  | .version | .help => false

end GlobalOptions

/-- Whether options are what some items say. -/
structure Told (items : List (Item GlobalFlag GlobalSetting)) (o : GlobalOptions) : Prop where
  settings : ∀ s, o.Has (given s items) s
  flags : ∀ f, o.raised f = true ↔ .flag f ∈ items

theorem given_concat (s : GlobalSetting) (items : List (Item GlobalFlag GlobalSetting)) (x : Item GlobalFlag GlobalSetting) :
    given s (items ++ [x]) = (given s items).or (x.valueOf s) := by
  rw [given,List.findSome?_append]
  cases value : x.valueOf s <;> simp [given,value]

theorem once_ok_iff {α : Type} {long value : String} {before : Option α} {read? : String → Option α} {x : α} :
    once long before read? value = .ok x ↔ before = none ∧ read? value = some x := by
  unfold once
  cases before <;> cases read? value <;> simp

theorem onceSet_ok_iff {long : String} {before b : Bool} : onceSet long before = .ok b ↔ before = false ∧ b = true := by
  unfold onceSet
  cases before <;> simp [eq_comm]

theorem required_ok_iff {α : Type} {what : String} {x : Option α} {y : α} : required what x = .ok y ↔ x = some y := by
  unfold required
  cases x <;> simp

/-- What has not been read had no text, so that the next one counts. -/
theorem readFrom_once {α : Type} {long value : String} {read? : String → Option α} {text : Option String} {before : Option α}
    {x : α} (told : ReadFrom read? text before) (read : once long before read? value = .ok x) :
    ReadFrom read? (text.or (some value)) (some x) := by
  obtain ⟨rfl,found⟩ := once_ok_iff.mp read
  cases text with
  | none => exact congrArg some found
  | some t => cases told

theorem readFrom_none {α : Type} {read? : String → Option α} {text : Option String} {x : Option α}
    (told : ReadFrom read? text x) (missing : x = none) : text = none := by
  subst missing
  simpa [ReadFrom] using told

theorem set_has {o p : GlobalOptions} {s : GlobalSetting} {v : String} (set : o.set v s = .ok p) {t : GlobalSetting}
    {text : Option String} (has : o.Has text t) : p.Has (text.or ((Item.setting s v).valueOf t)) t := by
  by_cases same : s = t
  · subst same
    rw [Item.valueOf,if_pos rfl]
    cases s <;> obtain ⟨x,read,rfl⟩ := map_ok_iff.mp set <;> exact readFrom_once has read
  · rw [Item.valueOf,if_neg same,Option.or_none]
    cases s <;> obtain ⟨x,read,rfl⟩ := map_ok_iff.mp set <;> cases t <;> first | exact has | exact absurd rfl same

theorem set_raised {o p : GlobalOptions} {s : GlobalSetting} {v : String} (set : o.set v s = .ok p) : p.raised = o.raised := by
  cases s <;> obtain ⟨x,read,rfl⟩ := map_ok_iff.mp set <;> rfl

theorem raise_cases {o p : GlobalOptions} {f : GlobalFlag} (raise : o.raise f = .ok p) :
    (f = .omitNoAction ∧ p = { o with omitNoAction := true }) ∨ (f = .verbose ∧ p = { o with verbose := true }) := by
  cases f with
  | omitNoAction =>
    obtain ⟨b,once,rfl⟩ := map_ok_iff.mp raise
    obtain ⟨-,rfl⟩ := onceSet_ok_iff.mp once
    exact .inl ⟨rfl,rfl⟩
  | verbose =>
    obtain ⟨b,once,rfl⟩ := map_ok_iff.mp raise
    obtain ⟨-,rfl⟩ := onceSet_ok_iff.mp once
    exact .inr ⟨rfl,rfl⟩
  | version => cases raise
  | help => cases raise

theorem raise_has {o p : GlobalOptions} {f : GlobalFlag} (raise : o.raise f = .ok p) : p.Has = o.Has := by
  rcases raise_cases raise with ⟨-,rfl⟩ | ⟨-,rfl⟩
  · rfl
  · rfl

theorem raise_raised {o p : GlobalOptions} {f : GlobalFlag} (raise : o.raise f = .ok p) (g : GlobalFlag) :
    p.raised g = true ↔ o.raised g = true ∨ g = f := by
  rcases raise_cases raise with ⟨rfl,rfl⟩ | ⟨rfl,rfl⟩
  · cases g <;> simp [GlobalOptions.raised]
  · cases g <;> simp [GlobalOptions.raised]

theorem told_add {items : List (Item GlobalFlag GlobalSetting)} {i j : Invocation} {x : Item GlobalFlag GlobalSetting}
    (told : Told items i.options) (added : i.add x = .ok j) : Told (items ++ [x]) j.options := by
  refine ⟨fun s => ?_,fun f => ?_⟩
  · rw [given_concat]
    cases x with
    | flag g =>
      obtain ⟨o,raise,rfl⟩ := map_ok_iff.mp added
      have silent : (Item.flag g : Item GlobalFlag GlobalSetting).valueOf s = none := rfl
      rw [silent,Option.or_none,raise_has raise]
      exact told.settings s
    | setting t v =>
      obtain ⟨o,set,rfl⟩ := map_ok_iff.mp added
      exact set_has set (told.settings s)
    | command word args =>
      obtain ⟨c,_,rfl⟩ := map_ok_iff.mp added
      have silent : (Item.command word args : Item GlobalFlag GlobalSetting).valueOf s = none := rfl
      rw [silent,Option.or_none]
      exact told.settings s
    | plain t => cases added
    | fault e => cases added
  · rw [List.mem_append,← told.flags f,List.mem_singleton]
    cases x with
    | flag g =>
      obtain ⟨o,raise,rfl⟩ := map_ok_iff.mp added
      simpa using raise_raised raise f
    | setting t v =>
      obtain ⟨o,set,rfl⟩ := map_ok_iff.mp added
      simp [set_raised set]
    | command word args =>
      obtain ⟨c,_,rfl⟩ := map_ok_iff.mp added
      simp
    | plain t => cases added
    | fault e => cases added

theorem told_items {items : List (Item GlobalFlag GlobalSetting)} {j : Invocation}
    (read : items.foldlM Invocation.add {} = .ok j) : Told items j.options := by
  induction items using List.reverseRecOn generalizing j with
  | nil =>
    cases read
    exact ⟨fun s => by cases s <;> rfl,fun f => by cases f <;> simp [GlobalOptions.raised]⟩
  | append_singleton items x ih =>
    obtain ⟨i,before,added⟩ := foldlM_concat_ok_iff.mp read
    exact told_add (ih before) added

theorem orVariable_eq {α : Type} {option : Option α} {environment other : String → Option String} {name : String}
    {read? : String → Option α} (same : option = none → environment name = other name) :
    GlobalOptions.orVariable option environment name read? = GlobalOptions.orVariable option other name read? := by
  cases option with
  | some x => rfl
  | none =>
    unfold GlobalOptions.orVariable
    rw [same rfl]

theorem readFrom_variable {α : Type} {option x : Option α} {environment : String → Option String} {name : String}
    {read? : String → Option α} {text : Option String} (told : ReadFrom read? text option)
    (read : GlobalOptions.orVariable option environment name read? = .ok x) :
    ReadFrom read? (text.or (environment name)) x := by
  cases option with
  | some y =>
    cases read
    cases text with
    | none => cases told
    | some t => exact told
  | none =>
    cases text with
    | some t => cases told
    | none =>
      unfold GlobalOptions.orVariable at read
      cases said : environment name with
      | none =>
        rw [said] at read
        cases read
        rfl
      | some v =>
        rw [said] at read
        obtain ⟨y,found,rfl⟩ := map_ok_iff.mp read
        exact congrArg some (once_ok_iff.mp found).2

theorem inEnvironment_eq {o : GlobalOptions} {items : List (Item GlobalFlag GlobalSetting)}
    {environment other : String → Option String} (told : Told items o)
    (same : ∀ s, given s items = none → environment s.variable = other s.variable) :
    o.inEnvironment environment = o.inEnvironment other := by
  have config : GlobalOptions.orVariable o.config environment "OXIDE_DDL_CONFIG" path? =
      GlobalOptions.orVariable o.config other "OXIDE_DDL_CONFIG" path? :=
    orVariable_eq fun missing => same .config (readFrom_none (told.settings .config) missing)
  have dialect : GlobalOptions.orVariable o.dialect environment "OXIDE_DDL_DIALECT" dialect? =
      GlobalOptions.orVariable o.dialect other "OXIDE_DDL_DIALECT" dialect? :=
    orVariable_eq fun missing => same .dialect (readFrom_none (told.settings .dialect) missing)
  have schema : GlobalOptions.orVariable o.schema environment "OXIDE_DDL_SCHEMA" some =
      GlobalOptions.orVariable o.schema other "OXIDE_DDL_SCHEMA" some :=
    orVariable_eq fun missing => same .schema (readFrom_none (told.settings .schema) missing)
  rw [GlobalOptions.inEnvironment,config,dialect,schema]
  rfl

theorem inEnvironment_has {o p : GlobalOptions} {items : List (Item GlobalFlag GlobalSetting)}
    {environment : String → Option String} (told : Told items o) (read : o.inEnvironment environment = .ok p) :
    (∀ s, p.Has ((given s items).or (environment s.variable)) s) ∧ p.raised = o.raised := by
  obtain ⟨config,readConfig,read⟩ := bind_ok_iff.mp read
  obtain ⟨dialect,readDialect,read⟩ := bind_ok_iff.mp read
  obtain ⟨schema,readSchema,read⟩ := bind_ok_iff.mp read
  cases read
  refine ⟨fun s => ?_,rfl⟩
  cases s with
  | config => exact readFrom_variable (told.settings .config) readConfig
  | dialect => exact readFrom_variable (told.settings .dialect) readDialect
  | schema => exact readFrom_variable (told.settings .schema) readSchema

/-- Whether options are what the arguments and the environment say: a setting is
    that of its option, or else that of its variable. -/
structure Said (args : List String) (environment : String → Option String) (o : GlobalOptions) : Prop where
  settings : ∀ s, o.Has ((given s (globalSyntax.items args)).or (environment s.variable)) s
  flags : ∀ f, o.raised f = true ↔ .flag f ∈ globalSyntax.items args

theorem said_of_read {args : List String} {environment : String → Option String} {o : GlobalOptions} {c : Command}
    (read : Invocation.ofArguments args environment = .ok (o,c)) : Said args environment o := by
  obtain ⟨i,items,read⟩ := bind_ok_iff.mp read
  obtain ⟨command,_,read⟩ := bind_ok_iff.mp read
  obtain ⟨p,inEnvironment,read⟩ := bind_ok_iff.mp read
  cases read
  have told := told_items items
  obtain ⟨settings,flags⟩ := inEnvironment_has told inEnvironment
  exact ⟨settings,fun f => by rw [flags]; exact told.flags f⟩

/-- The variable of a setting that is an option is not looked at. -/
theorem ofArguments_eq {args : List String} {environment other : String → Option String}
    (same : ∀ s, given s (globalSyntax.items args) = none → environment s.variable = other s.variable) :
    Invocation.ofArguments args environment = Invocation.ofArguments args other := by
  unfold Invocation.ofArguments
  cases read : (globalSyntax.items args).foldlM Invocation.add {} with
  | error e => rfl
  | ok i =>
    have options := inEnvironment_eq (told_items read) same
    simp only [bind,Except.bind,options]

/-! ## The adapter -/

/-- What the options start from: the configuration of a file that makes sense by
    itself, or nothing but the dialect. -/
inductive StartsFrom (o : GlobalOptions) (files : Files) : Option Adapter → Prop
  | file {path text : String} {a : Adapter} : o.config = some path → files.readText path = .ok text →
      (Json.read? text).bind Adapter.ofJson? = some a → Sensible a.settings.defaultSchema → StartsFrom o files (some a)
  | dialect : o.config = none → o.dialect ≠ none → StartsFrom o files none

/-- The default schema that options leave. -/
def mergedSchema (o : GlobalOptions) (base : Option Adapter) : Option String :=
  o.schema.or (base.bind (·.settings.defaultSchema))

/-- Whether an adapter is what options leave of a configuration. -/
structure Merged (o : GlobalOptions) (base : Option Adapter) (a : Adapter) : Prop where
  dialect : some a.dialect = o.dialect.or (base.map (·.dialect))
  schema : a.settings.defaultSchema = mergedSchema o base
  noAction : a.settings.renderNoAction = if o.omitNoAction then false else (base.map (·.settings.renderNoAction)).getD true

theorem load_ok_iff {files : Files} {path : String} {a : Adapter} :
    (Adapter.load files path).value = .ok a ↔
      ∃ text, files.readText path = .ok text ∧ (Json.read? text).bind Adapter.ofJson? = some a ∧
        Sensible a.settings.defaultSchema := by
  rw [Adapter.load]
  dsimp only
  cases files.readText path with
  | error fault => simp
  | ok text =>
    dsimp only
    rw [Adapter.ofText]
    cases parsed : (Json.read? text).bind Adapter.ofJson? with
    | none => simp [parsed]
    | some b =>
      dsimp only
      rw [Adapter.validated_ok_iff]
      constructor
      · rintro ⟨sensible,rfl⟩
        exact ⟨text,rfl,parsed,sensible⟩
      · rintro ⟨_,same,found,sensible⟩
        cases same
        rw [parsed] at found
        cases found
        exact ⟨sensible,rfl⟩

theorem merged_unique {o : GlobalOptions} {base : Option Adapter} {a b : Adapter} (left : Merged o base a)
    (right : Merged o base b) : a = b := by
  obtain ⟨d,⟨schema,noAction⟩⟩ := a
  obtain ⟨e,⟨otherSchema,otherNoAction⟩⟩ := b
  have sameDialect : d = e := Option.some.inj (left.dialect.trans right.dialect.symm)
  have sameSchema : schema = otherSchema := left.schema.trans right.schema.symm
  have sameNoAction : noAction = otherNoAction := left.noAction.trans right.noAction.symm
  rw [sameDialect,sameSchema,sameNoAction]

theorem merged_override {o : GlobalOptions} {b : Adapter} : Merged o (some b) (o.override b) := by
  refine ⟨?_,rfl,?_⟩
  · cases dialect : o.dialect <;> simp [GlobalOptions.override,dialect]
  · cases omitted : o.omitNoAction <;> simp [GlobalOptions.override,omitted]

theorem merged_ofDialect {o : GlobalOptions} {d : Dialect} (dialect : o.dialect = some d) :
    Merged o none (o.override (.ofDialect d)) := by
  refine ⟨?_,rfl,?_⟩
  · simp [GlobalOptions.override,dialect]
  · cases omitted : o.omitNoAction <;> simp [GlobalOptions.override,omitted,Adapter.ofDialect]

theorem start_of_base {o : GlobalOptions} {files : Files} {b : Adapter} (found : (o.baseAdapter files).value = .ok b) :
    ∃ base, StartsFrom o files base ∧ Merged o base (o.override b) := by
  unfold GlobalOptions.baseAdapter at found
  split at found
  · rename_i path _ config
    obtain ⟨text,read,parsed,sensible⟩ := load_ok_iff.mp (mapError_ok_iff.mp found)
    exact ⟨some b,.file config read parsed sensible,merged_override⟩
  · rename_i d config dialect
    cases found
    exact ⟨none,.dialect config (by simp [dialect]),merged_ofDialect dialect⟩
  · cases found

theorem base_of_start {o : GlobalOptions} {files : Files} {base : Option Adapter} (start : StartsFrom o files base) :
    ∃ b, (o.baseAdapter files).value = .ok b ∧ Merged o base (o.override b) := by
  cases start with
  | @file path text b config read parsed sensible =>
    refine ⟨b,?_,merged_override⟩
    rw [GlobalOptions.baseAdapter,config]
    exact mapError_ok_iff.mpr (load_ok_iff.mpr ⟨text,read,parsed,sensible⟩)
  | dialect config present =>
    obtain ⟨d,dialect⟩ := Option.ne_none_iff_exists'.mp present
    exact ⟨.ofDialect d,by rw [GlobalOptions.baseAdapter,config,dialect],merged_ofDialect dialect⟩

theorem adapter_ok_iff {o : GlobalOptions} {files : Files} {a : Adapter} :
    (o.adapter files).value = .ok a ↔
      ∃ base, StartsFrom o files base ∧ Merged o base a ∧ Sensible a.settings.defaultSchema := by
  have steps : (o.adapter files).value = .ok a ↔
      ∃ b, (o.baseAdapter files).value = .ok b ∧ Sensible a.settings.defaultSchema ∧ a = o.override b := by
    refine bind_ok_iff.trans (exists_congr fun b => and_congr_right fun _ => ?_)
    rw [mapError_ok_iff,Adapter.validated_ok_iff]
    constructor
    · rintro ⟨sensible,rfl⟩
      exact ⟨sensible,rfl⟩
    · rintro ⟨sensible,rfl⟩
      exact ⟨sensible,rfl⟩
  rw [steps]
  constructor
  · rintro ⟨b,found,sensible,rfl⟩
    obtain ⟨base,start,merged⟩ := start_of_base found
    exact ⟨base,start,merged,sensible⟩
  · rintro ⟨base,start,merged,sensible⟩
    obtain ⟨b,found,same⟩ := base_of_start start
    exact ⟨b,found,sensible,merged_unique merged same⟩

/-- What the adapter of a command line is. Each setting is that of its option, or
    else that of its variable, which is not looked at behind an option. There is
    an adapter if and only if the configuration file makes sense by itself, or no
    file but a dialect is given, and the default schema that is left makes sense.
    Then each part of the adapter is that of the options, or else that of the
    file, or else the usual one, and it passes the check of a configuration. -/
theorem configuration_precedence (args : List String) (environment : String → Option String) (files : Files) :
    (∀ other, (∀ s, given s (globalSyntax.items args) = none → environment s.variable = other s.variable) →
      Invocation.ofArguments args environment = Invocation.ofArguments args other) ∧
    ∀ o c, Invocation.ofArguments args environment = .ok (o,c) → Said args environment o ∧
      ((∃ a, (o.adapter files).value = .ok a) ↔ ∃ base, StartsFrom o files base ∧ Sensible (mergedSchema o base)) ∧
      ∀ a, (o.adapter files).value = .ok a → (∃ base, StartsFrom o files base ∧ Merged o base a) ∧ a.validated = .ok a := by
  refine ⟨fun other same => ofArguments_eq same,?_⟩
  intro o c read
  refine ⟨said_of_read read,?_,?_⟩
  · constructor
    · rintro ⟨a,found⟩
      obtain ⟨base,start,merged,sensible⟩ := adapter_ok_iff.mp found
      exact ⟨base,start,merged.schema ▸ sensible⟩
    · rintro ⟨base,start,sensible⟩
      obtain ⟨b,_,merged⟩ := base_of_start start
      exact ⟨_,adapter_ok_iff.mpr ⟨base,start,merged,merged.schema.symm ▸ sensible⟩⟩
  · intro a found
    obtain ⟨base,start,merged,sensible⟩ := adapter_ok_iff.mp found
    exact ⟨⟨base,start,merged⟩,Adapter.validated_ok_iff.mpr ⟨sensible,rfl⟩⟩

/-- The schema of the option hides that of the variable and overrules that of the
    file, and the rest is what the file says. -/
theorem configuration_precedence_of_file :
    let o : GlobalOptions := ⟨some "c.json",none,some "u",false,false⟩
    let files : Files := fun _ =>
      .ok "\x7b\"dialect\":\"derby\",\"default_schema\":\"s\",\"render_no_action\":false\x7d".toUTF8
    let environment : String → Option String := fun name => if name = "OXIDE_DDL_SCHEMA" then some "" else none
    Invocation.ofArguments ["--config","c.json","-s=u","on-delete"] environment = .ok (o,.onDelete none) ∧
      (o.adapter files).value = .ok ⟨.derby,⟨some "u",false⟩⟩ ∧
      ∃ base, StartsFrom o files base ∧ Merged o base ⟨.derby,⟨some "u",false⟩⟩ := by
  intro o files environment
  have read : Invocation.ofArguments ["--config","c.json","-s=u","on-delete"] environment = .ok (o,.onDelete none) := by
    rfl
  have found : (o.adapter files).value = .ok ⟨.derby,⟨some "u",false⟩⟩ := by rfl
  exact ⟨read,found,(((configuration_precedence _ environment files).2 o _ read).2.2 _ found).1⟩

end PortableDdl.CommandLine
