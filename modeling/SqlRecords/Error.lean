/-
This file gathers the errors that work with a database can end in, whatever part of the library
they come from.

Most errors belong to a few kinds that a caller may want to tell apart. One is not for callers
to handle at all: where an instant has no universal date, the work is abandoned.
-/

import SqlRecords.Endpoint
import SqlRecords.Record
import SqlRecords.Sql.Writer

namespace SqlRecords

/-- An error of work with a database. -/
inductive Error where
  | statement (reason : StatementError)
  | record (reason : RecordError)
  | conversion (reason : ConversionError)
  | endpoint (reason : Endpoint.Error)
  | missingArgument (name : String)
  | connectionClosed
  /-- what a server or the way to it reports -/
  | remote (text : String)
deriving DecidableEq

/-- The kinds of errors that callers tell apart. -/
inductive ErrorKind where
  | unsupportedOperation
  | unsupportedLiteralType
  | missingPrimaryKey
  | emptyBatch
  | conversion
  | missingArgument
  | connectionClosed
  | other
  /-- the work was abandoned -/
  | abandoned
deriving DecidableEq, Repr

/-- The kind of an error of a statement. -/
def StatementError.kind : StatementError → ErrorKind
  | utcOutOfRange => .abandoned
  | unsupportedLiteral _ => .unsupportedLiteralType
  | filterTooLate | orderTooLate | secondLimit | nothingToUpdate _ => .unsupportedOperation
  | missingPrimaryKey _ => .missingPrimaryKey
  | emptyBatch _ => .emptyBatch
  | missingKeyValue _ _ => .other

/-- The kind of an error of a record. -/
def RecordError.kind : RecordError → ErrorKind
  | utcOutOfRange => .abandoned
  | conversion _ _ _ => .conversion

/-- The kind of an error of a conversion. -/
def ConversionError.kind : ConversionError → ErrorKind
  | utcOutOfRange => .abandoned
  | _ => .other

/-- The kind of an error of an endpoint. -/
def Endpoint.Error.kind : Endpoint.Error → ErrorKind
  | missingArgument _ => .missingArgument
  | _ => .other

namespace Error

/-- The kind of an error. -/
def kind : Error → ErrorKind
  | statement reason => reason.kind
  | record reason => reason.kind
  | conversion reason => reason.kind
  | endpoint reason => reason.kind
  | missingArgument _ => .missingArgument
  | connectionClosed => .connectionClosed
  | remote _ => .other

/-- The wording of an error. -/
def message : Error → String
  | statement reason => reason.message
  | record reason => reason.message
  | conversion reason => reason.message
  | endpoint reason => reason.message
  | missingArgument name => "Argument `" ++ name ++ "` is required"
  | connectionClosed => "The connection is closed"
  | remote text => text

end Error

end SqlRecords
