import PortableDdl.CommandLine.Command
import PortableDdl.Document.Configuration

/-!
# Invocations

A whole command line: the options before the command, which say for which
adapter to write, and the command itself. Some options can come from the
environment instead, and the options overrule a configuration file.
-/

namespace PortableDdl.CommandLine

/-- The flags before the command. -/
inductive GlobalFlag where
  | omitNoAction
  | verbose
  | version
  | help
deriving DecidableEq, Repr

/-- The settings before the command. -/
inductive GlobalSetting where
  | config
  | dialect
  | schema
deriving DecidableEq, Repr

/-- The syntax of a command line. -/
def globalSyntax : ArgumentSyntax GlobalFlag GlobalSetting where
  options :=
    [⟨.setting .config, "config", some 'c'⟩, ⟨.setting .dialect, "dialect", some 'd'⟩,
     ⟨.setting .schema, "schema", some 's'⟩, ⟨.flag .omitNoAction, "omit-no-action", none⟩,
     ⟨.flag .verbose, "verbose", some 'v'⟩, helpForm .help, ⟨.flag .version, "version", some 'V'⟩]
  commands := commandWords

/-- The options before the command. -/
structure GlobalOptions where
  config : Option String := none
  dialect : Option Dialect := none
  schema : Option String := none
  omitNoAction : Bool := false
  verbose : Bool := false
deriving DecidableEq, Repr

/-- What has been read of a command line. -/
structure Invocation where
  options : GlobalOptions := {}
  command : Option Command := none
deriving DecidableEq, Repr

/-- The variables of the environment that stand for options. -/
def environmentNames : List String := ["OXIDE_DDL_CONFIG", "OXIDE_DDL_DIALECT", "OXIDE_DDL_SCHEMA"]

/-- A path, which is not empty. -/
def path? (v : String) : Option String := if v = "" then none else some v

/-- A dialect by its word. -/
def dialect? (v : String) : Option Dialect := (Dialect.parse v).toOption

namespace GlobalOptions

/-- The value of a setting. -/
def set (o : GlobalOptions) (value : String) : GlobalSetting → Except Interruption GlobalOptions
  | .config => (once "config" o.config path? value).map fun x => { o with config := some x }
  | .dialect => (once "dialect" o.dialect dialect? value).map fun x => { o with dialect := some x }
  | .schema => (once "schema" o.schema some value).map fun x => { o with schema := some x }

/-- A flag. -/
def raise (o : GlobalOptions) : GlobalFlag → Except Interruption GlobalOptions
  | .omitNoAction =>
    (onceSet "omit-no-action" o.omitNoAction).map fun b => { o with omitNoAction := b }
  | .verbose => (onceSet "verbose" o.verbose).map fun b => { o with verbose := b }
  | .version => .error .version
  | .help => .error .help

/-- A setting that may come from a variable. Where the option is given, the
    variable is not looked at. -/
def orVariable {α : Type} (given : Option α) (environment : String → Option String)
    (name : String) (read? : String → Option α) : Except Interruption (Option α) :=
  if given.isSome then .ok given
  else
    match environment name with
    | some v => (once name given read? v).map some
    | none => .ok none

/-- The options together with the environment. -/
def inEnvironment (o : GlobalOptions) (environment : String → Option String) :
    Except Interruption GlobalOptions := do
  let config ← orVariable o.config environment "OXIDE_DDL_CONFIG" path?
  let dialect ← orVariable o.dialect environment "OXIDE_DDL_DIALECT" dialect?
  let schema ← orVariable o.schema environment "OXIDE_DDL_SCHEMA" some
  return { o with config, dialect, schema }

end GlobalOptions

namespace Invocation

/-- One more item. -/
def add (i : Invocation) : Item GlobalFlag GlobalSetting → Except Interruption Invocation
  | .flag f => (i.options.raise f).map fun o => { i with options := o }
  | .setting s v => (i.options.set v s).map fun o => { i with options := o }
  | .plain t => .error (.fault (.unknownCommand t))
  | .command word args => (readCommand word args).map fun c => { i with command := some c }
  | .fault f => .error (.fault f)

/-- Reads a command line. -/
def ofArguments (args : List String) (environment : String → Option String) :
    Except Interruption (GlobalOptions × Command) := do
  let i ← (globalSyntax.items args).foldlM add {}
  let command ← required "a command" i.command
  let options ← i.options.inEnvironment environment
  return (options, command)

end Invocation

end PortableDdl.CommandLine
