import PortableDdl.Adapter.Column
import PortableDdl.Adapter.ColumnTypes
import PortableDdl.Adapter.ForeignKey
import PortableDdl.Adapter.Index
import PortableDdl.CommandLine.Invocation
import PortableDdl.CommandLine.Report

/-!
# Running a command line

A command line ends with a statement on the output or with an error; the events
on the way go where the errors go.
-/

namespace PortableDdl.CommandLine

/-- The column that is asked for, in a dialect. -/
def ColumnRequest.definition (r : ColumnRequest) (d : ColumnDefinition) :
    Except DdlError ColumnDefinition := do
  let d ← match r.limit with
    | some n => d.withLimit (.length n)
    | none => .ok d
  let d ← match r.precision with
    | some p => d.withLimit (.precision p r.scale)
    | none => .ok d
  let d ← match r.defaultValue with
    | some v => d.withDefault v
    | none => .ok d
  return if r.notNull then d.withNotNull else d

/-- The column that is asked for, with its name. -/
def ColumnRequest.run (r : ColumnRequest) (a : Adapter) : Logged (Except DdlError String) :=
  (a.dialect.columnDefinition r.type r.characterSet).map fun base => do
    let d ← r.definition (← base)
    return a.text (← a.column r.name d)

/-- What a command asks for, written for an adapter. -/
def Command.run (a : Adapter) : Command → Logged (Except DdlError String)
  | .column r => r.run a
  | .dropIndex table index => ⟨.ok (a.text (a.dropIndex none table index)), []⟩
  | .changePrivileges verb table grantees privileges =>
    (a.changePrivileges verb none table grantees privileges).map fun s => s.map a.text
  | .onDelete action => ⟨.ok ((a.onDelete action).getD ""), []⟩

namespace GlobalOptions

/-- The adapter of the configuration file, or else that of the dialect. -/
def baseAdapter (o : GlobalOptions) (files : Files) : Logged (Except Failure Adapter) :=
  match o.config, o.dialect with
  | some path, _ => (Adapter.load files path).map fun a => a.mapError (.notLoaded path)
  | none, some d => ⟨.ok (.ofDialect d), []⟩
  | none, none => ⟨.error .noDialect, []⟩

/-- An adapter with all that the options say about it. -/
def override (o : GlobalOptions) (a : Adapter) : Adapter where
  dialect := o.dialect.getD a.dialect
  settings :=
    { defaultSchema := o.schema.or a.settings.defaultSchema
      renderNoAction := !o.omitNoAction && a.settings.renderNoAction }

/-- The adapter to write for. -/
def adapter (o : GlobalOptions) (files : Files) : Logged (Except Failure Adapter) :=
  (o.baseAdapter files).map fun base => do
    ((o.override (← base)).validated).mapError .refused

end GlobalOptions

/-- What becomes of a command, with all that happens on the way. -/
def perform (o : GlobalOptions) (c : Command) (files : Files) : Logged (Except Failure String) :=
  (o.adapter files).andThen fun adapter =>
    match adapter with
    | .ok a =>
      let written := c.run a
      ⟨written.value.mapError .refused,
        .debug ("Using " ++ a.dialect.word ++ " adapter") :: written.events⟩
    | .error f => ⟨.error f, []⟩

/-- The name of the program and its version. -/
def versionText : String := "oxide-ddl 0.1.0"

/-- How a command line ends. -/
def run (w : Wording) (args : List String) (environment : String → Option String)
    (files : Files) : Outcome :=
  match Invocation.ofArguments args environment with
  | .ok (options, command) => outcome w options.verbose (perform options command files)
  | .error .version => ⟨0, versionText ++ "\n", ""⟩
  | .error .help => ⟨0, w.help, ""⟩
  | .error (.fault f) => ⟨2, "", w.usageFault f⟩

end PortableDdl.CommandLine
