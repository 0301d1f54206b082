import PortableDdl.CommandLine.PlainWording
import PortableDdl.CommandLine.Run

/-!
# The program

The only place that touches the outside: it collects the arguments, the
environment and the configuration file, and writes what comes of them.
-/

namespace PortableDdl

/-- Why the system could not read a file. The system may give the negative of an
    error code. -/
def ReadFault.ofError (e : IO.Error) : ReadFault :=
  match e with
  | .noFileOrDirectory .. => .notFound
  | .inappropriateType _ code _ =>
    if min code (0 - code) = 21 then .isDirectory else .notDirectory
  | .invalidArgument _ 36 _ | .invalidArgument _ 0xFFFFFFDC _ => .nameTooLong
  | _ => .other (toString e)

/-- The bytes of the file under a path. -/
def readFile (path : String) : IO (Except ReadFault ByteArray) :=
  try
    return .ok (← IO.FS.readBinFile path)
  catch e =>
    return .error (.ofError e)

/-- The variables of the environment that stand for options. -/
def readVariables : IO (List (String × String)) :=
  CommandLine.environmentNames.filterMapM fun name => do
    return (← IO.getEnv name).map fun value => (name, value)

end PortableDdl

open PortableDdl CommandLine in
/-- Runs the command line. Only the file that the arguments name is read. -/
def main (args : List String) : IO UInt32 := do
  let values ← readVariables
  let environment := fun name => values.lookup name
  let content ← match Invocation.ofArguments args environment with
    | .ok ({ config := some path, .. }, _) => readFile path
    | _ => pure (.error .notFound)
  let outcome := run .plain args environment fun _ => content
  IO.eprint outcome.stderr
  IO.print outcome.stdout
  return outcome.code
