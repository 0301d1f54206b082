import PortableDdl.CommandLine.PlainWording
import PortableDdl.Proofs.CommandLineOptions

/-!
# How a command line ends

A command line that makes sense ends with its statement and nothing else on the
output, or with an error and nothing there. Asking for more events adds those to
the errors that are not shown otherwise, and changes nothing else.
-/

namespace PortableDdl.CommandLine

/-- Why a command line that makes sense has no result. -/
inductive Fails (o : GlobalOptions) (c : Command) (files : Files) : Failure → Prop
  | configuration {f : Failure} : (o.adapter files).value = .error f → Fails o c files f
  | command {a : Adapter} {e : DdlError} : (o.adapter files).value = .ok a → (c.run a).value = .error e →
      Fails o c files (.refused e)

variable {o : GlobalOptions} {c : Command} {files : Files}

theorem perform_ok_iff {text : String} :
    (perform o c files).value = .ok text ↔
      ∃ a, (o.adapter files).value = .ok a ∧ (c.run a).value = .ok text := by
  rw [perform,Logged.andThen]
  dsimp only
  cases (o.adapter files).value with
  | error f => simp
  | ok a => simp [mapError_ok_iff]

theorem perform_error_iff {f : Failure} : (perform o c files).value = .error f ↔ Fails o c files f := by
  rw [perform,Logged.andThen]
  dsimp only
  cases adapter : (o.adapter files).value with
  | error g =>
    constructor
    · rintro ⟨⟩
      exact .configuration adapter
    · rintro (found | ⟨found,_⟩)
      · exact congrArg Except.error (Except.error.inj (adapter.symm.trans found))
      · cases adapter.symm.trans found
  | ok a =>
    refine mapError_error_iff.trans ⟨?_,?_⟩
    · rintro ⟨e,refused,rfl⟩
      exact .command adapter refused
    · rintro (found | ⟨found,refused⟩)
      · cases adapter.symm.trans found
      · cases adapter.symm.trans found
        exact ⟨_,refused,rfl⟩

/-- Some events as they are shown. -/
def Wording.shown (w : Wording) (events : List Event) : String := String.join (events.map w.eventLine)

/-- The events that are shown: all of them on demand, or else those that are not
    for debugging. -/
def GlobalOptions.visible (o : GlobalOptions) (events : List Event) : List Event :=
  if o.verbose then events else events.filter (·.level ≠ .debug)

/-- Whether words are those of a text, with a margin before all lines but the first. -/
def SetOff (margin text words : String) : Prop :=
  ∃ lines : List String, (∀ line ∈ lines, '\n' ∉ line.toList) ∧ text = "\n".intercalate lines ∧
    words = ("\n" ++ margin).intercalate lines

/-- How the errors end after a failure: with what failed, what lies behind it, and
    the way to it where that is shown. -/
inductive Ends (w : Wording) : Failure → String → Prop
  | noDialect : Ends w .noDialect
      ("Error: either --config or --dialect is required" ++ w.trace .noDialect ++ "\n")
  | refused {e : DdlError} : Ends w (.refused e)
      ("Error: " ++ e.message w.documentFault ++ w.trace (.refused e) ++ "\n")
  | unreadable {path words : String} {fault : ReadFault} : SetOff "       " fault.message words →
      Ends w (.notLoaded path (.unreadable fault))
        ("Error: Failed to load " ++ path ++ "\n\nCaused by:\n    0: IO error: " ++ words ++ "\n    1: " ++ words ++
          w.trace (.notLoaded path (.unreadable fault)) ++ "\n")
  | malformed {path words : String} : SetOff "       " w.documentFault words →
      Ends w (.notLoaded path .malformedDocument)
        ("Error: Failed to load " ++ path ++ "\n\nCaused by:\n    0: Serialization error: " ++ words ++ "\n    1: " ++
          words ++ w.trace (.notLoaded path .malformedDocument) ++ "\n")
  | insensible {path : String} : Ends w (.notLoaded path (.invalidConfiguration .emptyDefaultSchema))
      ("Error: Failed to load " ++ path ++
        "\n\nCaused by:\n    Invalid configuration: default_schema must not be empty" ++
        w.trace (.notLoaded path (.invalidConfiguration .emptyDefaultSchema)) ++ "\n")

variable {w : Wording}

theorem setOff_append (margin s t : String) : setOff margin (s ++ t) = setOff margin s ++ setOff margin t := by
  rw [setOff,String.toList_append,List.map_append,String.join_append]
  rfl

theorem setOff_singleton (margin : String) (c : Char) :
    setOff margin (String.singleton c) = if c = '\n' then "\n" ++ margin else String.singleton c := by
  simp [setOff]

/-- The lines of a text and those that are set off are the same. The induction puts
    one more character in front, which begins a line or belongs to the first one. -/
theorem exists_lines (margin : String) (cs : List Char) :
    ∃ line lines, (∀ l ∈ line :: lines, '\n' ∉ l.toList) ∧ String.ofList cs = "\n".intercalate (line :: lines) ∧
      setOff margin (String.ofList cs) = ("\n" ++ margin).intercalate (line :: lines) := by
  induction cs with
  | nil => exact ⟨"",[],by simp,rfl,rfl⟩
  | cons c cs ih =>
    obtain ⟨line,lines,whole,text,words⟩ := ih
    rw [String.ofList_cons,setOff_append,setOff_singleton,text] at *
    by_cases newline : c = '\n'
    · subst newline
      refine ⟨"",line :: lines,List.forall_mem_cons.mpr ⟨by simp,whole⟩,?_,?_⟩
      · rw [String.intercalate_cons_cons]
        rfl
      · rw [if_pos rfl,words,String.intercalate_cons_cons,String.empty_append]
    · obtain ⟨first,others⟩ := List.forall_mem_cons.mp whole
      refine ⟨String.singleton c ++ line,lines,List.forall_mem_cons.mpr ⟨?_,others⟩,?_,?_⟩
      · simpa [Ne.symm newline] using first
      · rw [String.intercalate_cons_append]
      · rw [if_neg newline,words,String.intercalate_cons_append]

theorem setOff_setOff (margin text : String) : SetOff margin text (setOff margin text) := by
  obtain ⟨line,lines,whole,joined,words⟩ := exists_lines margin text.toList
  rw [String.ofList_toList] at joined words
  exact ⟨line :: lines,whole,joined,words⟩

/-- Of a file that gives no configuration, one of three things is said. -/
theorem load_error {path : String} {e : DdlError} (failed : (Adapter.load files path).value = .error e) :
    (∃ fault, e = .unreadable fault) ∨ e = .malformedDocument ∨ e = .invalidConfiguration .emptyDefaultSchema := by
  rw [Adapter.load] at failed
  dsimp only at failed
  split at failed
  · rw [Adapter.ofText] at failed
    split at failed
    · exact .inr (.inr (Adapter.validated_error_iff.mp failed).2)
    · exact .inr (.inl (Except.error.inj failed).symm)
  · exact .inl ⟨_,(Except.error.inj failed).symm⟩

/-- Without an adapter, the fault lies with the file, with the options, or with the
    schema that is left. -/
theorem adapter_error {f : Failure} (failed : (o.adapter files).value = .error f) :
    f = .noDialect ∨ (∃ e, f = .refused e) ∨
      ∃ path e, f = .notLoaded path e ∧ (Adapter.load files path).value = .error e := by
  rcases bind_error_iff.mp failed with base | ⟨b,_,checked⟩
  · unfold GlobalOptions.baseAdapter at base
    split at base
    · obtain ⟨e,load,rfl⟩ := mapError_error_iff.mp base
      exact .inr (.inr ⟨_,e,rfl,load⟩)
    · cases base
    · cases base
      exact .inl rfl
  · obtain ⟨e,_,rfl⟩ := mapError_error_iff.mp checked
    exact .inr (.inl ⟨e,rfl⟩)

theorem report_refused (e : DdlError) :
    (Failure.refused e).report w = "Error: " ++ e.message w.documentFault ++ w.trace (.refused e) ++ "\n" := by
  have noCause : "Error: " ++ e.message w.documentFault ++ "" = "Error: " ++ e.message w.documentFault :=
    String.append_empty
  exact congrArg (· ++ w.trace (.refused e) ++ "\n") noCause

theorem report_notLoaded (path : String) (e : DdlError) :
    (Failure.notLoaded path e).report w = "Error: Failed to load " ++ path ++
      causeLines (e.message w.documentFault :: (e.cause? w.documentFault).toList) ++ w.trace (.notLoaded path e) ++ "\n" := by
  have begun : "Error: " ++ ("Failed to load " ++ path) = "Error: Failed to load " ++ path := String.append_assoc.symm
  exact congrArg (· ++ causeLines _ ++ w.trace (.notLoaded path e) ++ "\n") begun

/-- The second of two causes is what the first one says behind some words of its own. -/
theorem causeLines_pair {opening : String} (oneLine : setOff "       " opening = opening) (words : String) :
    causeLines [opening ++ words,words] = "\n\nCaused by:\n    0: " ++ opening ++ setOff "       " words ++ "\n    1: " ++
      setOff "       " words := by
  have zero : "\n    " ++ Nat.repr 0 ++ ": " = "\n    0: " := by decide
  have one : "\n    " ++ Nat.repr 1 ++ ": " = "\n    1: " := by decide
  have begun : "\n\nCaused by:" ++ "\n    0: " = "\n\nCaused by:\n    0: " := by decide
  show "\n\nCaused by:" ++ String.join ["\n    " ++ Nat.repr 0 ++ ": " ++ setOff "       " (opening ++ words),
    "\n    " ++ Nat.repr 1 ++ ": " ++ setOff "       " words] = _
  rw [String.join_cons,String.join_cons,String.join_nil,String.append_empty,zero,one,setOff_append,oneLine,← begun]
  simp only [String.append_assoc]

theorem report_of_pair {path opening begun words : String} {e : DdlError} (said : e.message w.documentFault = opening ++ words)
    (behind : e.cause? w.documentFault = some words) (oneLine : setOff "       " opening = opening)
    (begins : "\n\nCaused by:\n    0: " ++ opening = begun) :
    (Failure.notLoaded path e).report w = "Error: Failed to load " ++ path ++ begun ++ setOff "       " words ++ "\n    1: " ++
      setOff "       " words ++ w.trace (.notLoaded path e) ++ "\n" := by
  rw [report_notLoaded,said,behind,Option.toList,causeLines_pair oneLine,begins]
  simp only [String.append_assoc]

/-- What is shown of a failure is how the errors end. -/
theorem ends_of_fails {f : Failure} (fails : Fails o c files f) : Ends w f (f.report w) := by
  have refused (e : DdlError) : Ends w (.refused e) ((Failure.refused e).report w) := by
    rw [report_refused]
    exact .refused
  cases fails with
  | command _ _ => exact refused _
  | configuration failed =>
    rcases adapter_error failed with rfl | ⟨e,rfl⟩ | ⟨path,e,rfl,load⟩
    · exact .noDialect
    · exact refused e
    · rcases load_error load with ⟨fault,rfl⟩ | rfl | rfl
      · have begins : "\n\nCaused by:\n    0: " ++ "IO error: " = "\n\nCaused by:\n    0: IO error: " := by decide
        rw [report_of_pair (show _ = _ ++ fault.message from rfl) rfl (by decide) begins]
        exact .unreadable (setOff_setOff _ _)
      · have begins : "\n\nCaused by:\n    0: " ++ "Serialization error: " =
            "\n\nCaused by:\n    0: Serialization error: " := by decide
        rw [report_of_pair (show _ = _ ++ w.documentFault from rfl) rfl (by decide) begins]
        exact .malformed (setOff_setOff _ _)
      · have behind : causeLines ["Invalid configuration: default_schema must not be empty"] =
            "\n\nCaused by:\n    Invalid configuration: default_schema must not be empty" := by decide
        have said : DdlError.message w.documentFault (.invalidConfiguration .emptyDefaultSchema) =
            "Invalid configuration: default_schema must not be empty" := by rfl
        have alone : DdlError.cause? w.documentFault (.invalidConfiguration .emptyDefaultSchema) = none := rfl
        rw [report_notLoaded,said,alone,Option.toList,behind]
        exact .insensible

/-- What is shown behind the events. -/
def conclusion (w : Wording) : Except Failure String → String
  | .ok _ => ""
  | .error f => f.report w

theorem outcome_code (w : Wording) (verbose : Bool) (result : Logged (Except Failure String)) :
    (outcome w verbose result).code = match result.value with | .ok _ => 0 | .error _ => 1 := by
  unfold outcome
  cases result.value <;> rfl

theorem outcome_stdout (w : Wording) (verbose : Bool) (result : Logged (Except Failure String)) :
    (outcome w verbose result).stdout = match result.value with | .ok text => text ++ "\n" | .error _ => "" := by
  unfold outcome
  cases result.value <;> rfl

theorem outcome_stderr (w : Wording) (o : GlobalOptions) (result : Logged (Except Failure String)) :
    (outcome w o.verbose result).stderr = w.shown (o.visible result.events) ++ conclusion w result.value := by
  have shown : result.events.filter (isShown o.verbose) = o.visible result.events := by
    unfold GlobalOptions.visible
    cases o.verbose with
    | true => exact List.filter_eq_self.mpr fun _ _ => rfl
    | false =>
      refine List.filter_congr fun e _ => ?_
      obtain ⟨level,text⟩ := e
      cases level <;> rfl
  rw [← shown]
  unfold outcome
  cases result.value
  · rfl
  · exact String.append_empty.symm

variable {args : List String} {environment : String → Option String}

theorem run_of_read (w : Wording) (read : Invocation.ofArguments args environment = .ok (o,c)) :
    run w args environment files = outcome w o.verbose (perform o c files) := by
  rw [run,read]

/-- A command that an adapter carries out ends with its text, and shows nothing but
    events beside it. -/
theorem run_of_written (w : Wording) {a : Adapter} {text : String}
    (read : Invocation.ofArguments args environment = .ok (o,c)) (adapter : (o.adapter files).value = .ok a)
    (written : (c.run a).value = .ok text) :
    (run w args environment files).code = 0 ∧ (run w args environment files).stdout = text ++ "\n" ∧
      (run w args environment files).stderr = w.shown (o.visible (perform o c files).events) := by
  rw [run_of_read w read,outcome_code,outcome_stdout,outcome_stderr,perform_ok_iff.mpr ⟨a,adapter,written⟩]
  exact ⟨rfl,rfl,String.append_empty⟩

/-- A command that an adapter refuses ends with the reason. -/
theorem run_of_refused (w : Wording) {a : Adapter} {e : DdlError}
    (read : Invocation.ofArguments args environment = .ok (o,c)) (adapter : (o.adapter files).value = .ok a)
    (refused : (c.run a).value = .error e) :
    (run w args environment files).code = 1 ∧ (run w args environment files).stdout = "" ∧
      (run w args environment files).stderr = w.shown (o.visible (perform o c files).events) ++
        ("Error: " ++ e.message w.documentFault ++ w.trace (.refused e) ++ "\n") := by
  rw [run_of_read w read,outcome_code,outcome_stdout,outcome_stderr,perform_error_iff.mpr (.command adapter refused),
    ← report_refused]
  exact ⟨rfl,rfl,rfl⟩

theorem run_of_fault (w : Wording) {f : UsageFault} (read : Invocation.ofArguments args environment = .error (.fault f)) :
    (run w args environment files).code = 2 ∧ (run w args environment files).stdout = "" := by
  rw [run,read]
  exact ⟨rfl,rfl⟩

/-- The same options, and a request for all events. -/
def GlobalOptions.loud (o : GlobalOptions) : GlobalOptions := { o with verbose := true }

/-- The same command line, and a request for all events. -/
def Invocation.loud (i : Invocation) : Invocation := { i with options := i.options.loud }

/-- What is taken by the way to no request for all events is taken with one. -/
theorem add_loud {i j : Invocation} {x : Item GlobalFlag GlobalSetting} (added : i.add x = .ok j)
    (quiet : j.options.verbose = false) : i.options.verbose = false ∧ i.loud.add x = .ok j.loud := by
  cases x with
  | flag f =>
    obtain ⟨p,raise,rfl⟩ := map_ok_iff.mp added
    cases f with
    | omitNoAction =>
      obtain ⟨b,once,rfl⟩ := map_ok_iff.mp raise
      exact ⟨quiet,map_ok_iff.mpr ⟨_,map_ok_iff.mpr ⟨b,once,rfl⟩,rfl⟩⟩
    | verbose =>
      obtain ⟨b,once,rfl⟩ := map_ok_iff.mp raise
      obtain ⟨-,rfl⟩ := onceSet_ok_iff.mp once
      cases quiet
    | version => cases raise
    | help => cases raise
  | setting s v =>
    obtain ⟨p,set,rfl⟩ := map_ok_iff.mp added
    cases s <;> obtain ⟨y,once,rfl⟩ := map_ok_iff.mp set <;>
      exact ⟨quiet,map_ok_iff.mpr ⟨_,map_ok_iff.mpr ⟨y,once,rfl⟩,rfl⟩⟩
  | command word args =>
    obtain ⟨c,read,rfl⟩ := map_ok_iff.mp added
    exact ⟨quiet,map_ok_iff.mpr ⟨c,read,rfl⟩⟩
  | plain t => cases added
  | fault e => cases added

theorem items_loud {items : List (Item GlobalFlag GlobalSetting)} {i j : Invocation}
    (read : items.foldlM Invocation.add i = .ok j) (quiet : j.options.verbose = false) :
    i.options.verbose = false ∧ items.foldlM Invocation.add i.loud = .ok j.loud := by
  induction items generalizing i with
  | nil =>
    cases read
    exact ⟨quiet,rfl⟩
  | cons x items ih =>
    obtain ⟨k,added,rest⟩ := bind_ok_iff.mp read
    obtain ⟨quietly,loudly⟩ := ih rest
    obtain ⟨before,first⟩ := add_loud added quietly
    exact ⟨before,bind_ok_iff.mpr ⟨k.loud,first,loudly⟩⟩

theorem items_verbose (args : List String) :
    globalSyntax.items ("-v" :: args) = .flag .verbose :: globalSyntax.items args := by
  have noCommand : globalSyntax.commands.contains "-v" = false := by decide
  have option : globalSyntax.readArgument "-v" = ([.flag .verbose],none) := by decide
  rw [ArgumentSyntax.items,ArgumentSyntax.itemsAfter,noCommand,option]
  rfl

theorem ofArguments_loud (read : Invocation.ofArguments args environment = .ok (o,c)) (quiet : o.verbose = false) :
    Invocation.ofArguments ("-v" :: args) environment = .ok (o.loud,c) := by
  obtain ⟨i,items,read⟩ := bind_ok_iff.mp read
  obtain ⟨command,present,read⟩ := bind_ok_iff.mp read
  obtain ⟨p,inEnvironment,read⟩ := bind_ok_iff.mp read
  cases read
  obtain ⟨config,readConfig,rest⟩ := bind_ok_iff.mp inEnvironment
  obtain ⟨dialect,readDialect,rest⟩ := bind_ok_iff.mp rest
  obtain ⟨schema,readSchema,rest⟩ := bind_ok_iff.mp rest
  cases rest
  have loudly : (globalSyntax.items ("-v" :: args)).foldlM Invocation.add {} = .ok i.loud := by
    rw [items_verbose]
    exact bind_ok_iff.mpr ⟨_,rfl,(items_loud items quiet).2⟩
  refine bind_ok_iff.mpr ⟨i.loud,loudly,bind_ok_iff.mpr ⟨c,present,bind_ok_iff.mpr ⟨_,?_,rfl⟩⟩⟩
  exact bind_ok_iff.mpr ⟨config,readConfig,bind_ok_iff.mpr ⟨dialect,readDialect,bind_ok_iff.mpr ⟨schema,readSchema,rfl⟩⟩⟩

/-- Nothing but the display looks at the request for all events. -/
theorem perform_loud (o : GlobalOptions) (c : Command) (files : Files) : perform o.loud c files = perform o c files := rfl

theorem run_code_zero (notHelp : Invocation.ofArguments args environment ≠ .error .help)
    (notVersion : Invocation.ofArguments args environment ≠ .error .version) :
    (run w args environment files).code = 0 ↔ ∃ o c a text, Invocation.ofArguments args environment = .ok (o,c) ∧
      (o.adapter files).value = .ok a ∧ (c.run a).value = .ok text := by
  cases read : Invocation.ofArguments args environment with
  | ok p =>
    obtain ⟨o,c⟩ := p
    rw [run_of_read w read,outcome_code]
    constructor
    · intro ended
      cases written : (perform o c files).value with
      | ok text =>
        obtain ⟨a,adapter,command⟩ := perform_ok_iff.mp written
        exact ⟨o,c,a,text,rfl,adapter,command⟩
      | error f => simp [written] at ended
    · rintro ⟨o,c,a,text,⟨⟩,adapter,command⟩
      rw [perform_ok_iff.mpr ⟨a,adapter,command⟩]
  | error e =>
    cases e with
    | help => exact absurd read notHelp
    | version => exact absurd read notVersion
    | fault f => simp [run,read]

theorem run_code_one : (run w args environment files).code = 1 ↔
    ∃ o c f, Invocation.ofArguments args environment = .ok (o,c) ∧ Fails o c files f := by
  cases read : Invocation.ofArguments args environment with
  | ok p =>
    obtain ⟨o,c⟩ := p
    rw [run_of_read w read,outcome_code]
    constructor
    · intro ended
      cases failed : (perform o c files).value with
      | ok text => simp [failed] at ended
      | error f => exact ⟨o,c,f,rfl,perform_error_iff.mp failed⟩
    · rintro ⟨o,c,f,⟨⟩,fails⟩
      rw [perform_error_iff.mpr fails]
  | error e => cases e <;> simp [run,read]

/-- How a command line ends that asks neither for help nor for the version, in
    whatever words the log, the readers and the trace are. It ends with zero if and
    only if the arguments make sense, there is an adapter for them and a statement
    of it, which then is the output, with the end of a line, and beside it nothing
    but events. It ends with one if and only if the arguments make sense and
    something else is wrong, which then ends the errors, and there is no output. In
    front of arguments that make sense and ask for no more events, -v changes
    neither how it ends nor the output, and from the errors without it nothing but
    the debug events are missing. -/
theorem command_outcome (w : Wording) (args : List String) (environment : String → Option String) (files : Files) :
    (Invocation.ofArguments args environment ≠ .error .help → Invocation.ofArguments args environment ≠ .error .version →
      ((run w args environment files).code = 0 ↔ ∃ o c a text, Invocation.ofArguments args environment = .ok (o,c) ∧
        (o.adapter files).value = .ok a ∧ (c.run a).value = .ok text)) ∧
    (∀ o c a text, Invocation.ofArguments args environment = .ok (o,c) → (o.adapter files).value = .ok a →
      (c.run a).value = .ok text →
      (run w args environment files).stdout = text ++ "\n" ∧
      (run w args environment files).stderr = w.shown (o.visible (perform o c files).events)) ∧
    ((run w args environment files).code = 1 ↔
      ∃ o c f, Invocation.ofArguments args environment = .ok (o,c) ∧ Fails o c files f) ∧
    (∀ o c f, Invocation.ofArguments args environment = .ok (o,c) → Fails o c files f →
      (run w args environment files).stdout = "" ∧
      ∃ ending, Ends w f ending ∧
        (run w args environment files).stderr = w.shown (o.visible (perform o c files).events) ++ ending) ∧
    ∀ o c, Invocation.ofArguments args environment = .ok (o,c) → o.verbose = false →
      (run w ("-v" :: args) environment files).code = (run w args environment files).code ∧
      (run w ("-v" :: args) environment files).stdout = (run w args environment files).stdout ∧
      ∃ ending,
        (run w ("-v" :: args) environment files).stderr = w.shown (perform o c files).events ++ ending ∧
        (run w args environment files).stderr = w.shown ((perform o c files).events.filter (·.level ≠ .debug)) ++ ending := by
  refine ⟨run_code_zero,?_,run_code_one,?_,?_⟩
  · intro o c a text read adapter written
    exact (run_of_written w read adapter written).2
  · intro o c f read fails
    have failed := perform_error_iff.mpr fails
    rw [run_of_read w read,outcome_stdout,outcome_stderr,failed]
    exact ⟨rfl,_,ends_of_fails fails,rfl⟩
  · intro o c read quiet
    have loudly : run w ("-v" :: args) environment files = outcome w o.loud.verbose (perform o c files) := by
      rw [run_of_read w (ofArguments_loud read quiet),perform_loud]
    have quietly : run w args environment files = outcome w o.verbose (perform o c files) := run_of_read w read
    have others : o.visible (perform o c files).events = (perform o c files).events.filter (·.level ≠ .debug) := by
      rw [GlobalOptions.visible,quiet]
      rfl
    rw [loudly,quietly,outcome_stderr,outcome_stderr,others]
    refine ⟨?_,?_,_,rfl,rfl⟩
    · rw [outcome_code,outcome_code]
    · rw [outcome_stdout,outcome_stdout]

/-- An index is dropped, with more events on demand. A column is refused, and
    nothing but the reason is shown. -/
theorem command_outcome_of_drop :
    let args := ["-c","c.json","drop-index","t","i"]
    let refused := ["-d","oracle","column","-t","char","-l","0","c"]
    let environment : String → Option String := fun _ => none
    let files : Files := fun _ => .ok "\x7b\"dialect\":\"mysql\"\x7d".toUTF8
    (run .plain args environment files).stdout = "DROP INDEX `i` ON `t`" ++ "\n" ∧
      (run .plain ("-v" :: args) environment files).stdout = (run .plain args environment files).stdout ∧
      (run .plain ("-v" :: args) environment files).stderr =
        "DEBUG Loading adapter configuration from c.json\nDEBUG Using mysql adapter\n" ++
          (run .plain args environment files).stderr ∧
      (run .plain refused environment files).code = 1 ∧
      (run .plain refused environment files).stderr =
        "Error: invalid limit for the CHAR column type: must be greater than zero\n" := by
  intro args refused environment files
  have read : Invocation.ofArguments args environment =
      .ok (⟨some "c.json",none,none,false,false⟩,.dropIndex "t" "i") := by rfl
  obtain ⟨_,written,_,_,loud⟩ := command_outcome .plain args environment files
  obtain ⟨_,stdout,_,more,fewer⟩ := loud _ _ read rfl
  have readRefused : Invocation.ofArguments refused environment =
      .ok ({ dialect := some .oracle },.column ⟨"c",.char,none,some 0,none,none,none,false⟩) := by decide +kernel
  have fails : Fails { dialect := some .oracle } (.column ⟨"c",.char,none,some 0,none,none,none,false⟩) files
      (.refused (.invalidLimit "CHAR" .zero)) := .command rfl rfl
  obtain ⟨_,_,code,failed,_⟩ := command_outcome .plain refused environment files
  obtain ⟨_,_,ends,shown⟩ := failed _ _ _ readRefused fails
  refine ⟨(written _ _ _ _ read rfl rfl).1,stdout,?_,code.mpr ⟨_,_,_,readRefused,fails⟩,?_⟩
  · rw [more,fewer]
    rfl
  · cases ends
    rw [shown]
    rfl

end PortableDdl.CommandLine
