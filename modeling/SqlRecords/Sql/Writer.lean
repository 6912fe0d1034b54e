/-
This file holds the writers that put statements together.

A writer appends to a text. It may fail, and the text then keeps what was written before the
failure, so that whoever passed the text in can see how far the writing came. The one loop all
statements share puts a separator between the pieces of a list that have any text; it remembers how
long the text was, and cuts it to that length where it has written a separator for nothing.
-/

import SqlRecords.Log
import SqlRecords.Text.Utf8
import SqlRecords.Value

namespace SqlRecords

/-! ### Errors -/

/-- Why a statement cannot be written. -/
inductive StatementError where
  /-- the universal date of an instant does not exist -/
  | utcOutOfRange
  | unsupportedLiteral (value : Value)
  | filterTooLate
  | orderTooLate
  | secondLimit
  | nothingToUpdate (table : String)
  | missingPrimaryKey (table : String)
  | emptyBatch (table : String)
  | missingKeyValue (table : String) (position : Nat)
deriving DecidableEq

/-- The name of a refused literal: a floating point number is written out, any other value is
described. -/
def StatementError.literalName : Value → String
  | .floating _ (some number) => number.text .plain
  | value => value.describe

/-- The wording of the reason. -/
def StatementError.message : StatementError → String
  | utcOutOfRange => "The date of the instant in universal time does not exist"
  | unsupportedLiteral value => "Unsupported literal type: " ++ literalName value
  | filterTooLate => "Unsupported operation: filter after ORDER BY or LIMIT"
  | orderTooLate => "Unsupported operation: order after LIMIT"
  | secondLimit => "Unsupported operation: second LIMIT"
  | nothingToUpdate table =>
    "Unsupported operation: `" ++ table ++ "` has no column that can be updated"
  | missingPrimaryKey table => "Table `" ++ table ++ "` has no primary key column"
  | emptyBatch table => "Cannot insert an empty batch into `" ++ table ++ "`"
  | missingKeyValue table position =>
    "The row of `" ++ table ++ "` has no value for the primary key at position " ++
      toString position

/-- What the log says about a failure: a value that has no literal is reported, unless it is a
number, whose refusal is left to the caller. -/
def StatementError.log : StatementError → List LogEntry
  | unsupportedLiteral (.floating _ _) => []
  | error@(unsupportedLiteral _) => [⟨.error, error.message⟩]
  | _ => []

/-! ### Writers -/

/-- A computation that appends to a text and may fail. The text outlives a failure. -/
abbrev TextWriter (Failure : Type) := ExceptT Failure (StateM String)

namespace TextWriter

variable {Failure : Type}

/-- Appends a piece of text. -/
def write (piece : String) : TextWriter Failure Unit :=
  modify (· ++ piece)

/-- Cuts the text to its first bytes, as many as a beginning of it has. -/
def truncate (length : Nat) : TextWriter Failure Unit :=
  modify fun text => Text.textBefore length (Text.encodeUtf8 text)

/-- Runs a writer on a text. -/
def runOn (writer : TextWriter Failure Unit) (before : String) : Except Failure Unit × String :=
  writer.run.run before

/-- What a writer writes on its own, if it does not fail. -/
def toText (writer : TextWriter Failure Unit) : Except Failure String :=
  match writer.runOn "" with
  | (.ok _, text) => .ok text
  | (.error failure, _) => .error failure

/-- Writes the items of a list with a separator between those that have any text. The flag says
whether an item before these had. An item without text gets no separator: the text is cut to the
length it had before the one written ahead of it. -/
def separatedFrom {Item : Type} (writeItem : Item → TextWriter Failure Unit)
    (separator : String) : Bool → List Item → TextWriter Failure Unit
  | _, [] => pure ()
  | separate, item :: rest => do
    let start := (← get).utf8ByteSize
    if separate then write separator
    let mark := (← get).utf8ByteSize
    writeItem item
    if (← get).utf8ByteSize = mark then
      truncate start
      separatedFrom writeItem separator separate rest
    else
      separatedFrom writeItem separator true rest

/-- Writes the items of a list with a separator between those that have any text. -/
def separated {Item : Type} (writeItem : Item → TextWriter Failure Unit) (separator : String)
    (items : List Item) : TextWriter Failure Unit :=
  separatedFrom writeItem separator false items

end TextWriter

/-- A writer of a statement. -/
abbrev Writer := TextWriter StatementError

end SqlRecords
