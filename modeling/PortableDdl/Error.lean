import PortableDdl.Dialect
import PortableDdl.Schema.ColumnType
import PortableDdl.Schema.ForeignKey
import PortableDdl.Schema.Privilege

/-!
# Errors

Why a request has no statement, why a text is not a request, and why a
configuration cannot be had. Each cause is a value; its wording is written
down once, in `message`.
-/

namespace PortableDdl

/-- What is wrong with a limit that the type could otherwise take. -/
inductive LimitFault where
  | lengthExpected
  | precisionExpected
  | zero
  | scaleExceedsPrecision
deriving DecidableEq, Repr

/-- The wording of a fault of a limit. -/
def LimitFault.message : LimitFault → String
  | .lengthExpected => "expected a length, not a precision"
  | .precisionExpected => "expected a precision, not a length"
  | .zero => "must be greater than zero"
  | .scaleExceedsPrecision => "scale exceeds precision"

/-- What is wrong with a word, a name or a list of a request. -/
inductive RequestFault where
  /-- No dialect has this name (in lower case). -/
  | unknownDialect (word : String)
  | unknownColumnType (word : String)
  | emptyCharacterSet
  | notCharacterSet (name : String)
  | unknownAction (word : String)
  | unterminatedColumns (text : String)
  | unknownPrivilege (word : String)
  /-- Columns behind a privilege on whole tables. -/
  | columnsOnTableRight (right : TableRight)
  | emptyDefaultSchema
  | indexWithoutColumns (index : String)
  /-- A foreign key whose two column lists do not match, or are empty. -/
  | unmatchedColumns (foreignKey : String)
  | noGrantee
  | noPrivilege
  | notAccount (grantee : String)
deriving DecidableEq, Repr

/-- The wording of a fault of a request. -/
def RequestFault.message : RequestFault → String
  | .unknownDialect w => "unknown dialect '" ++ w ++ "'"
  | .unknownColumnType w => "unknown column type '" ++ w ++ "'"
  | .emptyCharacterSet => "character set name must not be empty"
  | .notCharacterSet n => "'" ++ n ++ "' is not a character set name"
  | .unknownAction w => "unknown foreign key action '" ++ w ++ "'"
  | .unterminatedColumns t => "unterminated column list in '" ++ t ++ "'"
  | .unknownPrivilege w => "unknown privilege '" ++ w ++ "'"
  | .columnsOnTableRight r => r.keyword ++ " cannot be restricted to columns"
  | .emptyDefaultSchema => "default_schema must not be empty"
  | .indexWithoutColumns i => "index '" ++ i ++ "' has no columns"
  | .unmatchedColumns k => "foreign key '" ++ k ++ "' must reference as many columns as it has"
  | .noGrantee => "at least one grantee is required"
  | .noPrivilege => "at least one privilege is required"
  | .notAccount g => "'" ++ g ++ "' is not a MySQL account"

/-- Why a file could not be read as text. -/
inductive ReadFault where
  | notFound
  /-- Something on the way is a file. -/
  | notDirectory
  | isDirectory
  | nameTooLong
  | zeroInPath
  | notUtf8
  /-- Another reason, in the words of the system. -/
  | other (text : String)
deriving DecidableEq, Repr

/-- The wording of a fault of reading. -/
def ReadFault.message : ReadFault → String
  | .notFound => "No such file or directory (os error 2)"
  | .notDirectory => "Not a directory (os error 20)"
  | .isDirectory => "Is a directory (os error 21)"
  | .nameTooLong => "File name too long (os error 36)"
  | .zeroInPath => "file name contained an unexpected NUL byte"
  | .notUtf8 => "stream did not contain valid UTF-8"
  | .other text => text

/-- Why an operation has no result. -/
inductive DdlError where
  | unsupportedColumnType (dialect : Dialect) (type : ColumnType)
  | missingRequiredLimit (baseType : String)
  | limitNotSupported (baseType : String)
  | invalidLimit (baseType : String) (fault : LimitFault)
  | defaultNotSupported (baseType : String)
  | unsupportedGrantGranularity (dialect : Dialect) (privilege : Privilege)
  | unsupportedForeignKeyAction (dialect : Dialect) (event : ReferentialEvent)
      (action : ForeignKeyAction)
  | unsupportedCheck (dialect : Dialect)
  | invalidConfiguration (fault : RequestFault)
  | unreadable (fault : ReadFault)
  | malformedDocument
deriving DecidableEq, Repr

/-- The wording of an error. What is wrong with a malformed document is said in
    the words of its reader. -/
def DdlError.message (documentFault : String) : DdlError → String
  | .unsupportedColumnType d t =>
    d.productName ++ " does not support the " ++ t.word ++ " column type"
  | .missingRequiredLimit t => "the " ++ t ++ " column type requires a limit"
  | .limitNotSupported t => "the " ++ t ++ " column type does not accept a limit"
  | .invalidLimit t f => "invalid limit for the " ++ t ++ " column type: " ++ f.message
  | .defaultNotSupported t => "the " ++ t ++ " column type does not accept a default value"
  | .unsupportedGrantGranularity d p =>
    d.productName ++ " does not support granting " ++ p.keyword ++ " on individual columns"
  | .unsupportedForeignKeyAction d e a =>
    d.productName ++ " does not support ON " ++ e.sql ++ " " ++ a.sql
  | .unsupportedCheck d => d.productName ++ " does not support CHECK constraints"
  | .invalidConfiguration f => "Invalid configuration: " ++ f.message
  | .unreadable f => "IO error: " ++ f.message
  | .malformedDocument => "Serialization error: " ++ documentFault

/-- The wording of what lies behind an error, where something does. -/
def DdlError.cause? (documentFault : String) : DdlError → Option String
  | .unreadable f => some f.message
  | .malformedDocument => some documentFault
  | _ => none

end PortableDdl
