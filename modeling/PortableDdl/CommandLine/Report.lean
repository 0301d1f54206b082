import PortableDdl.CommandLine.Syntax
import PortableDdl.Error
import PortableDdl.Event

/-!
# Reports

How a run of the program ends, and what it shows: the result on the output,
events and errors beside it. Some of the words are not the program's own: those
of the log, of the readers of documents and arguments, and the trace behind a
failure. They depend on the terminal and the environment, and are given.
-/

namespace PortableDdl.CommandLine

/-- Why a command line has no result. -/
inductive Failure where
  | notLoaded (path : String) (cause : DdlError)
  | noDialect
  | refused (e : DdlError)
deriving DecidableEq, Repr

/-- What is shown in words that are not the program's own. -/
structure Wording where
  /-- An event as a line of the log, with colours or without. -/
  eventLine : Event → String
  /-- What is wrong with the document that is read, if it is malformed. -/
  documentFault : String
  /-- The way to a failure, if the environment asks for it, else nothing. -/
  trace : Failure → String
  /-- Everything that is shown of arguments that make no sense. -/
  usageFault : UsageFault → String
  /-- The help that is asked for. -/
  help : String

/-- A text with a margin before all of its lines but the first. -/
def setOff (margin text : String) : String :=
  String.join (text.toList.map fun c => if c = '\n' then "\n" ++ margin else String.singleton c)

/-- The causes of an error, each on a line of its own, with numbers if there are
    several. -/
def causeLines : List String → String
  | [] => ""
  | [c] => "\n\nCaused by:\n    " ++ setOff "    " c
  | cs =>
    "\n\nCaused by:" ++
      String.join (cs.zipIdx.map fun c => "\n    " ++ c.2.repr ++ ": " ++ setOff "       " c.1)

namespace Failure

/-- The wording of a failure. -/
def message (w : Wording) : Failure → String
  | .notLoaded path _ => "Failed to load " ++ path
  | .noDialect => "either --config or --dialect is required"
  | .refused e => e.message w.documentFault

/-- What lies behind a failure, the nearest cause first. What is refused is
    refused for no other reason than that of the error itself. -/
def causes (w : Wording) : Failure → List String
  | .notLoaded _ cause => cause.message w.documentFault :: (cause.cause? w.documentFault).toList
  | .noDialect | .refused _ => []

/-- What is shown of a failure. -/
def report (w : Wording) (f : Failure) : String :=
  "Error: " ++ f.message w ++ causeLines (f.causes w) ++ w.trace f ++ "\n"

end Failure

/-- Whether an event is shown: a warning always, others only on demand. -/
def isShown (verbose : Bool) (e : Event) : Bool := verbose || e.level = .warn

/-- How a run ends. -/
structure Outcome where
  /-- Zero if all went well, two if the arguments make no sense, else one. -/
  code : UInt32
  stdout : String
  stderr : String
deriving DecidableEq, Repr

/-- How a command ends. -/
def outcome (w : Wording) (verbose : Bool) (result : Logged (Except Failure String)) : Outcome :=
  let log := String.join ((result.events.filter (isShown verbose)).map w.eventLine)
  match result.value with
  | .ok text => ⟨0, text ++ "\n", log⟩
  | .error f => ⟨1, "", log ++ f.report w⟩

end PortableDdl.CommandLine
