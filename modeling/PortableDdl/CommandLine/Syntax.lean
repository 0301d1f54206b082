import PortableDdl.Text.Cut

/-!
# The syntax of arguments

Arguments are read from left to right, each as one or more things that are
asked for: flags, options with a value, commands, plain texts. What cannot be
read is kept as a fault at its place, so that what stands before it still
counts.
-/

namespace PortableDdl.CommandLine

/-- Why arguments make no sense. -/
inductive UsageFault where
  | unknownOption (text : String)
  | missingValue
  | unexpectedValue (long : String)
  | repeatedOption (long : String)
  | invalidValue (what text : String)
  | unexpectedArgument (text : String)
  | unknownCommand (text : String)
  | missing (what : String)
  | conflict (long other : String)
  | requires (long other : String)
deriving DecidableEq, Repr

/-- What an option is for: a flag stands alone, a setting has a value. -/
inductive OptionUse (Flag Setting : Type) where
  | flag (f : Flag)
  | setting (s : Setting)
deriving DecidableEq, Repr

/-- An option and how it is written. -/
structure OptionForm (Flag Setting : Type) where
  use : OptionUse Flag Setting
  long : String
  short : Option Char := none

/-- What can be written at some place of the command line. -/
structure ArgumentSyntax (Flag Setting : Type) where
  options : List (OptionForm Flag Setting)
  commands : List String := []

/-- Something that arguments ask for. -/
inductive Item (Flag Setting : Type) where
  | flag (f : Flag)
  | setting (s : Setting) (value : String)
  | plain (text : String)
  /-- A command, with all arguments that follow it. -/
  | command (word : String) (rest : List String)
  | fault (f : UsageFault)
deriving DecidableEq, Repr

namespace ArgumentSyntax

variable {Flag Setting : Type}

/-- The option of a word behind two hyphens. -/
def ofLong? (x : ArgumentSyntax Flag Setting) (long : String) : Option (OptionUse Flag Setting) :=
  (x.options.find? (·.long == long)).map (·.use)

/-- The option of a letter behind one hyphen. -/
def ofShort? (x : ArgumentSyntax Flag Setting) (short : Char) : Option (OptionUse Flag Setting) :=
  (x.options.find? (·.short == some short)).map (·.use)

/-- An option behind two hyphens, with what stands behind an equals sign. The
    second part is the setting whose value is the next argument. -/
def readLong (x : ArgumentSyntax Flag Setting) (long : String) (value : Option String) :
    List (Item Flag Setting) × Option Setting :=
  match x.ofLong? long, value with
  | none, _ => ([.fault (.unknownOption long)], none)
  | some (.flag f), none => ([.flag f], none)
  | some (.flag _), some _ => ([.fault (.unexpectedValue long)], none)
  | some (.setting s), none => ([], some s)
  | some (.setting s), some v => ([.setting s v], none)

/-- The value of a setting in what follows its letter: all of it, without an
    equals sign before it. -/
def attached : List Char → List Char
  | '=' :: v => v
  | v => v

/-- The options behind one hyphen. The first setting takes the rest of the
    argument, or else the next argument. -/
def readShort (x : ArgumentSyntax Flag Setting) :
    List Char → List (Item Flag Setting) × Option Setting
  | [] => ([], none)
  | c :: rest =>
    match x.ofShort? c with
    | none => ([.fault (.unknownOption (String.singleton c))], none)
    | some (.flag f) =>
      let (items, pending) := x.readShort rest
      (.flag f :: items, pending)
    | some (.setting s) =>
      if rest.isEmpty then ([], some s)
      else ([.setting s (String.ofList (attached rest))], none)

/-- An argument that is no value of a setting. -/
def readArgument (x : ArgumentSyntax Flag Setting) (arg : String) :
    List (Item Flag Setting) × Option Setting :=
  match arg.toList with
  | '-' :: '-' :: text =>
    match Text.cutFirst? '=' text with
    | some (long, v) => x.readLong (String.ofList long) (some (String.ofList v))
    | none => x.readLong (String.ofList text) none
  | '-' :: c :: cs => x.readShort (c :: cs)
  | _ => ([.plain arg], none)

/-- Whether an argument can only be an option, or the end of the options. -/
def looksLikeOption (arg : String) : Bool :=
  match arg.toList with
  | '-' :: _ :: _ => true
  | _ => false

/-- Everything that some arguments ask for, where the first of them may be the
    value of a setting. Behind two hyphens alone everything is plain text. A value
    that is an argument of its own is looked at after the command that follows it,
    if one does: help on the command is given even if the value makes no sense. -/
def itemsAfter (x : ArgumentSyntax Flag Setting) :
    Option Setting → List String → List (Item Flag Setting)
  | some _, [] => [.fault .missingValue]
  | some s, [arg] => if looksLikeOption arg then [.fault .missingValue] else [.setting s arg]
  | some s, arg :: next :: rest =>
    if looksLikeOption arg then [.fault .missingValue]
    else if x.commands.contains next then [.command next rest, .setting s arg]
    else .setting s arg :: x.itemsAfter none (next :: rest)
  | none, [] => []
  | none, arg :: rest =>
    if x.commands.contains arg then [.command arg rest]
    else if arg = "--" then rest.map .plain
    else
      let (items, pending) := x.readArgument arg
      items ++ x.itemsAfter pending rest

/-- Everything that some arguments ask for. -/
def items (x : ArgumentSyntax Flag Setting) (args : List String) : List (Item Flag Setting) :=
  x.itemsAfter none args

end ArgumentSyntax

/-- What ends the reading of arguments before there is something to do. -/
inductive Interruption where
  | version
  | help
  | fault (f : UsageFault)
deriving DecidableEq, Repr

/-- The value of an option that stands at most once, if it can be read. -/
def once {α : Type} (long : String) (before : Option α) (read? : String → Option α)
    (value : String) : Except Interruption α :=
  if before.isSome then .error (.fault (.repeatedOption long))
  else
    match read? value with
    | some a => .ok a
    | none => .error (.fault (.invalidValue long value))

/-- A flag that stands at most once. -/
def onceSet (long : String) (before : Bool) : Except Interruption Bool :=
  if before then .error (.fault (.repeatedOption long)) else .ok true

/-- Something that has to be there. -/
def required {α : Type} (what : String) (a : Option α) : Except Interruption α :=
  match a with
  | some a => .ok a
  | none => .error (.fault (.missing what))

end PortableDdl.CommandLine
