import PortableDdl.Error
import PortableDdl.Schema.CharacterSet
import PortableDdl.Text.Blank
import PortableDdl.Text.Cut

/-!
# Reading words

How people write dialects, column types, character sets, actions and
privileges: the case of ASCII letters does not matter. Documents are stricter
and have their own readers.
-/

namespace PortableDdl

/-- A text with its ASCII letters in lower case. -/
def asciiLower (s : String) : String := s.map Char.toLower

/-- Reads a dialect. PostgreSQL also goes by its full name. -/
def Dialect.parse (s : String) : Except DdlError Dialect :=
  let w := asciiLower s
  match if w = "postgresql" then some .postgres else Dialect.ofWord? w with
  | some d => .ok d
  | none => .error (.invalidConfiguration (.unknownDialect w))

/-- Reads a column type. -/
def ColumnType.parse (s : String) : Except DdlError ColumnType :=
  match ColumnType.ofWord? (asciiLower s) with
  | some t => .ok t
  | none => .error (.invalidConfiguration (.unknownColumnType s))

/-- Reads a character set, without the white space around it. -/
def CharacterSet.parse (s : String) : Except DdlError CharacterSet :=
  let name := Text.trim s
  if name = "" then .error (.invalidConfiguration .emptyCharacterSet)
  else if asciiLower name = "unicode" then .ok .unicode
  else .ok (.named name)

/-- A separator between the words of an action, as documents write it. -/
def ForeignKeyAction.separator (c : Char) : Char := if c = '-' || c = ' ' then '_' else c

/-- Reads an action, its words joined by a hyphen, a space or an underscore. -/
def ForeignKeyAction.parse (s : String) : Except DdlError ForeignKeyAction :=
  match ForeignKeyAction.ofWord? ((asciiLower s).map separator) with
  | some a => .ok a
  | none => .error (.invalidConfiguration (.unknownAction s))

namespace Privilege

/-- The entries between the commas of a column list, without white space and
    without those that are nothing else. -/
def columnEntries (list : List Char) : List String :=
  ((list.splitOn ',').map fun e => String.ofList (Text.trimChars e)).filter (· ≠ "")

/-- The name of a privilege with the given columns. -/
def ofName (name : String) (columns : List String) : Except DdlError Privilege :=
  let w := asciiLower name
  match ColumnRight.ofWord? w with
  | some r => .ok (.onColumns r columns)
  | none =>
    match if w = "all privileges" then some .all else TableRight.ofWord? w with
    | some r =>
      if columns.isEmpty then .ok (.onTable r)
      else .error (.invalidConfiguration (.columnsOnTableRight r))
    | none => .error (.invalidConfiguration (.unknownPrivilege name))

/-- Reads a privilege: its name alone, or its name and a list of columns in
    parentheses. -/
def parse (s : String) : Except DdlError Privilege :=
  let text := Text.trim s
  match Text.cutFirst? '(' text.toList with
  | none => ofName text []
  | some (name, rest) =>
    if rest.getLast? = some ')' then
      ofName (String.ofList (Text.trimChars name)) (columnEntries rest.dropLast)
    else .error (.invalidConfiguration (.unterminatedColumns text))

end Privilege

end PortableDdl
