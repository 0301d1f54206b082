import PortableDdl.Adapter
import PortableDdl.Document.Request
import PortableDdl.Event
import PortableDdl.Files
import PortableDdl.Json.Reading
import PortableDdl.Text.Blank

/-!
# Configurations

An adapter can be written down as a document with the dialect and the settings.
Whatever is left out has its usual value; a default schema must not be blank.
-/

namespace PortableDdl

open Json (Value)

/-- Whether settings make sense, and else why not. -/
def Settings.validate (s : Settings) : Except DdlError Unit :=
  if s.defaultSchema.any Text.isBlankText then
    .error (.invalidConfiguration .emptyDefaultSchema)
  else .ok ()

namespace Adapter

/-- The names of the parts of a configuration, in the order in which they stand. -/
def fieldNames : List String := ["dialect", "default_schema", "render_no_action"]

/-- An adapter as a document. -/
def toJson (a : Adapter) : Value :=
  .ofMembers
    [("dialect", a.dialect.toJson),
     ("default_schema", .optionalString a.settings.defaultSchema),
     ("render_no_action", .bool a.settings.renderNoAction)]

/-- The adapter of a document, whether its settings make sense or not. -/
def ofJson? (v : Value) : Option Adapter := do
  let field ← Json.fields? fieldNames 1 v
  let dialect ← (field "dialect").bind Dialect.ofJson?
  let defaultSchema ← (Json.orNull (field "default_schema")).optionalString?
  let renderNoAction ← ((field "render_no_action").getD (.bool true)).bool?
  return { dialect, settings := { defaultSchema, renderNoAction } }

/-- An adapter whose settings make sense. -/
def validated (a : Adapter) : Except DdlError Adapter := a.settings.validate.map fun _ => a

/-- The adapter that a text describes. -/
def ofText (s : String) : Except DdlError Adapter :=
  match (Json.read? s).bind ofJson? with
  | some a => a.validated
  | none => .error .malformedDocument

/-- The adapter that a file describes. -/
def load (files : Files) (path : String) : Logged (Except DdlError Adapter) where
  events := [.debug ("Loading adapter configuration from " ++ path)]
  value :=
    match files.readText path with
    | .ok s => ofText s
    | .error fault => .error (.unreadable fault)

end Adapter

end PortableDdl
