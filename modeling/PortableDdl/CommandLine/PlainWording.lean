import PortableDdl.CommandLine.Command
import PortableDdl.CommandLine.Report

/-!
# Plain words

The words of a run without colours, as NO_COLOR asks for, and without a trace
behind a failure, for which the environment can ask. The readers of documents and
of arguments say in short what is wrong.
-/

namespace PortableDdl.CommandLine

/-- A character as it is shown in an event. Those on which a terminal acts are
    spelled out, so that no text can steer the terminal. -/
def shownChar (c : Char) : String :=
  if c = '\x1b' then "\\x1b"
  else if c = '\x07' then "\\x07"
  else if c = '\x08' then "\\x08"
  else if c = '\x0c' then "\\x0c"
  else if c = '\x7f' then "\\x7f"
  else if 0x80 ≤ c.toNat && c.toNat ≤ 0x9F then
    "\\u\x7b" ++ String.ofList (Nat.toDigits 16 c.toNat) ++ "\x7d"
  else String.singleton c

/-- An event as a line. -/
def plainLine (e : Event) : String :=
  (if e.level = .warn then " " else "") ++ e.level.name ++ " " ++
    String.join (e.text.toList.map shownChar) ++ "\n"

/-- The wording of a fault. -/
def UsageFault.message : UsageFault → String
  | .unknownOption t => "unknown option '" ++ t ++ "'"
  | .missingValue => "an option has no value"
  | .unexpectedValue l => "'--" ++ l ++ "' takes no value"
  | .repeatedOption l => "'--" ++ l ++ "' cannot be used twice"
  | .invalidValue w t => "invalid value '" ++ t ++ "' for " ++ w
  | .unexpectedArgument t => "unexpected argument '" ++ t ++ "'"
  | .unknownCommand t => "unknown command '" ++ t ++ "'"
  | .missing w => w ++ " is missing"
  | .conflict l o => "'--" ++ l ++ "' cannot be used with '--" ++ o ++ "'"
  | .requires l o => "'--" ++ l ++ "' requires '--" ++ o ++ "'"

/-- How the program is used. -/
def usageText : String :=
  "usage: oxide-ddl [options] (" ++ "|".intercalate commandWords ++ ") [arguments]"

/-- The plain words. -/
def Wording.plain : Wording where
  eventLine := plainLine
  documentFault := "the text is no document of the expected form"
  trace _ := ""
  usageFault f := "error: " ++ f.message ++ "\n" ++ usageText ++ "\n"
  help := usageText ++ "\n"

end PortableDdl.CommandLine
