import PortableDdl.Adapter.Grant
import PortableDdl.CommandLine.Syntax
import PortableDdl.Schema.Limit
import PortableDdl.Words

/-!
# Commands

What can be asked for on the command line, and how the arguments of each
command are read. Options and plain texts may stand in any order.
-/

namespace PortableDdl.CommandLine

/-- A column that is asked for. -/
structure ColumnRequest where
  name : String
  type : ColumnType
  characterSet : Option CharacterSet
  /-- A length. -/
  limit : Option UInt32
  precision : Option UInt32
  /-- The scale of a precision. -/
  scale : Option UInt32
  defaultValue : Option String
  notNull : Bool
deriving DecidableEq, Repr

/-- Something to write for an adapter. -/
inductive Command where
  | column (request : ColumnRequest)
  | dropIndex (table index : String)
  | changePrivileges (verb : GrantVerb) (table : String) (grantees : List String)
      (privileges : List Privilege)
  | onDelete (action : Option ForeignKeyAction)
deriving DecidableEq, Repr

/-- The form of the flag that asks for help. -/
def helpForm {Flag Setting : Type} (f : Flag) : OptionForm Flag Setting :=
  ⟨.flag f, "help", some 'h'⟩

/-- The only flag of most commands. -/
inductive HelpFlag where
  | help
deriving DecidableEq, Repr

/-! ## Columns -/

/-- The flags of the command for columns. -/
inductive ColumnFlag where
  | notNull
  | help
deriving DecidableEq, Repr

/-- The settings of the command for columns. -/
inductive ColumnSetting where
  | type
  | charset
  | limit
  | precision
  | scale
  | defaultValue
deriving DecidableEq, Repr

/-- The syntax of the command for columns. -/
def columnSyntax : ArgumentSyntax ColumnFlag ColumnSetting where
  options :=
    [⟨.setting .type, "type", some 't'⟩, ⟨.setting .charset, "charset", none⟩,
     ⟨.setting .limit, "limit", some 'l'⟩, ⟨.setting .precision, "precision", some 'p'⟩,
     ⟨.setting .scale, "scale", none⟩, ⟨.setting .defaultValue, "default", none⟩,
     ⟨.flag .notNull, "not-null", none⟩, helpForm .help]

/-- What has been read of the command for columns. -/
structure ColumnArguments where
  name : Option String := none
  type : Option ColumnType := none
  charset : Option CharacterSet := none
  limit : Option UInt32 := none
  precision : Option UInt32 := none
  scale : Option UInt32 := none
  defaultValue : Option String := none
  notNull : Bool := false
deriving DecidableEq, Repr

namespace ColumnArguments

/-- The value of a setting. -/
def set (a : ColumnArguments) (value : String) :
    ColumnSetting → Except Interruption ColumnArguments
  | .type =>
    (once "type" a.type (fun v => (ColumnType.parse v).toOption) value).map
      fun x => { a with type := some x }
  | .charset =>
    (once "charset" a.charset (fun v => (CharacterSet.parse v).toOption) value).map
      fun x => { a with charset := some x }
  | .limit =>
    (once "limit" a.limit (fun v => Text.signed32? v.toList) value).map
      fun x => { a with limit := some x }
  | .precision =>
    (once "precision" a.precision (fun v => Text.signed32? v.toList) value).map
      fun x => { a with precision := some x }
  | .scale =>
    (once "scale" a.scale (fun v => Text.signed32? v.toList) value).map
      fun x => { a with scale := some x }
  | .defaultValue =>
    (once "default" a.defaultValue some value).map fun x => { a with defaultValue := some x }

/-- One more item. -/
def add (a : ColumnArguments) :
    Item ColumnFlag ColumnSetting → Except Interruption ColumnArguments
  | .flag .help => .error .help
  | .flag .notNull => (onceSet "not-null" a.notNull).map fun b => { a with notNull := b }
  | .setting s v => a.set v s
  | .plain t | .command t _ =>
    if a.name.isSome then .error (.fault (.unexpectedArgument t))
    else .ok { a with name := some t }
  | .fault f => .error (.fault f)

/-- A length and a precision exclude each other. A scale asks for a precision,
    unless there is a length: it rules the precision out, which then is not missed. -/
def checkLimits (a : ColumnArguments) : Except Interruption Unit :=
  if a.limit.isSome && a.precision.isSome then .error (.fault (.conflict "limit" "precision"))
  else if a.scale.isSome && a.precision.isNone && a.limit.isNone then
    .error (.fault (.requires "scale" "precision"))
  else .ok ()

/-- The column that is asked for, if nothing is missing. -/
def request (a : ColumnArguments) : Except Interruption ColumnRequest := do
  let name ← required "the name" a.name
  let type ← required "'--type'" a.type
  a.checkLimits
  return { name, type, characterSet := a.charset, limit := a.limit, precision := a.precision,
           scale := a.scale, defaultValue := a.defaultValue, notNull := a.notNull }

end ColumnArguments

/-- Reads the arguments of the command for columns. -/
def readColumn (args : List String) : Except Interruption Command := do
  let a ← (columnSyntax.items args).foldlM ColumnArguments.add {}
  return .column (← a.request)

/-! ## Commands with plain texts only -/

/-- The syntax of a command without settings. -/
def plainSyntax : ArgumentSyntax HelpFlag Empty where
  options := [helpForm .help]

/-- One more item of the command that drops an index, which takes two texts. -/
def addName (names : List String) : Item HelpFlag Empty → Except Interruption (List String)
  | .flag .help => .error .help
  | .plain t | .command t _ =>
    if names.length < 2 then .ok (names ++ [t]) else .error (.fault (.unexpectedArgument t))
  | .fault f => .error (.fault f)

/-- Reads the arguments of the command that drops an index. -/
def readDropIndex (args : List String) : Except Interruption Command := do
  match ← (plainSyntax.items args).foldlM addName [] with
  | [table, index] => return .dropIndex table index
  | _ => throw (.fault (.missing "the table or the index"))

/-- One more item of the command for the clause on rows that go away, which takes
    an action. -/
def addAction (action : Option ForeignKeyAction) :
    Item HelpFlag Empty → Except Interruption (Option ForeignKeyAction)
  | .flag .help => .error .help
  | .plain t | .command t _ =>
    if action.isSome then .error (.fault (.unexpectedArgument t))
    else
      match ForeignKeyAction.parse t with
      | .ok x => .ok (some x)
      | .error _ => .error (.fault (.invalidValue "the action" t))
  | .fault f => .error (.fault f)

/-- Reads the arguments of the command for the clause on rows that go away. -/
def readOnDelete (args : List String) : Except Interruption Command := do
  let action ← (plainSyntax.items args).foldlM addAction none
  return .onDelete action

/-! ## Privileges -/

/-- The settings of the commands for privileges. -/
inductive PrivilegeSetting where
  | grantee
  | privilege
deriving DecidableEq, Repr

/-- The syntax of the commands for privileges. -/
def privilegeSyntax : ArgumentSyntax HelpFlag PrivilegeSetting where
  options :=
    [⟨.setting .grantee, "grantee", some 'g'⟩, ⟨.setting .privilege, "privilege", some 'p'⟩,
     helpForm .help]

/-- What has been read of a command for privileges. -/
structure PrivilegeArguments where
  table : Option String := none
  grantees : List String := []
  privileges : List Privilege := []
deriving DecidableEq, Repr

namespace PrivilegeArguments

/-- One more item. -/
def add (a : PrivilegeArguments) :
    Item HelpFlag PrivilegeSetting → Except Interruption PrivilegeArguments
  | .flag .help => .error .help
  | .setting .grantee g => .ok { a with grantees := a.grantees ++ [g] }
  | .setting .privilege p =>
    match Privilege.parse p with
    | .ok x => .ok { a with privileges := a.privileges ++ [x] }
    | .error _ => .error (.fault (.invalidValue "privilege" p))
  | .plain t | .command t _ =>
    if a.table.isSome then .error (.fault (.unexpectedArgument t))
    else .ok { a with table := some t }
  | .fault f => .error (.fault f)

/-- The command, if nothing is missing. -/
def command (verb : GrantVerb) (a : PrivilegeArguments) : Except Interruption Command := do
  let table ← required "the table" a.table
  if a.grantees.isEmpty then throw (.fault (.missing "'--grantee'"))
  if a.privileges.isEmpty then throw (.fault (.missing "'--privilege'"))
  return .changePrivileges verb table a.grantees a.privileges

end PrivilegeArguments

/-- Reads the arguments of a command for privileges. -/
def readPrivileges (verb : GrantVerb) (args : List String) : Except Interruption Command := do
  let a ← (privilegeSyntax.items args).foldlM PrivilegeArguments.add {}
  a.command verb

/-! ## All commands -/

/-- The commands that write something, each with the reader of its arguments. -/
def commands : List (String × (List String → Except Interruption Command)) :=
  [("column", readColumn), ("drop-index", readDropIndex), ("grant", readPrivileges .grant),
   ("revoke", readPrivileges .revoke), ("on-delete", readOnDelete)]

/-- The command that asks for help. -/
def helpWord : String := "help"

/-- The words that begin a command. -/
def commandWords : List String := commands.map (·.1) ++ [helpWord]

/-- Reads what help is asked for: everything, or one command. No command has
    commands of its own, so nothing may follow its word. -/
def readHelp : List String → Except Interruption Command
  | [] => .error .help
  | word :: rest =>
    match commandWords.contains word, rest with
    | true, [] => .error .help
    | true, next :: _ => .error (.fault (.unknownCommand next))
    | false, _ => .error (.fault (.unknownCommand word))

/-- Reads a command and its arguments. -/
def readCommand (word : String) (args : List String) : Except Interruption Command :=
  if word = helpWord then readHelp args
  else
    match commands.lookup word with
    | some read => read args
    | none => .error (.fault (.unknownCommand word))

end PortableDdl.CommandLine
