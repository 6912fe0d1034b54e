/-
This file builds the records of a table from rows of results.

Columns and fields are matched by position: surplus values are dropped, missing ones are null.
Every value first goes through the tag of its column, where the column has one and the value is
not null, and then into the field. A value that either of them refuses ends the building with
an error that names the field and the value. The labels of a row decide nothing; a label that
differs from the name of its column is only noted in the log.
-/

import SqlRecords.Log
import SqlRecords.Row
import SqlRecords.Table

namespace SqlRecords

/-! ### Errors -/

/-- Why a record cannot be built. -/
inductive RecordError where
  /-- the universal date of an instant does not exist -/
  | utcOutOfRange
  | conversion (field : String) (value : Value) (reason : ConversionError)
deriving DecidableEq

/-- The wording of the reason. -/
def RecordError.message : RecordError → String
  | utcOutOfRange => ConversionError.utcOutOfRange.message
  | conversion field value reason =>
    "Cannot assign " ++ value.describe ++ " to field `" ++ field ++ "`: " ++ reason.message

/-- The error of a field whose value is refused. -/
def RecordError.ofField (field : String) (value : Value) : ConversionError → RecordError
  | .utcOutOfRange => utcOutOfRange
  | reason => conversion field value reason

/-! ### Fields -/

/-- The content that a field takes from a value. -/
def FieldType.assign (type : FieldType) (field : String) (value : Value) :
    Except RecordError type.Content :=
  (type.ofCell value).mapError (.ofField field value)

/-- The value that the field of a column holds after it was given a value. A field without a
type holds the value itself. -/
def Column.assign (column : Column) (value : Value) : Except RecordError Value :=
  match column.type with
  | some type => (type.assign column.field value).map type.toValue
  | none => .ok value

/-- A value after the tag of its column; a column without one leaves it as it is. -/
def Column.convert (column : Column) (value : Value) : Except RecordError Value :=
  match column.tag with
  | some tag => (tag.convert value).mapError (.ofField column.field value)
  | none => .ok value

/-! ### Records -/

namespace Table

/-- One value per column: those given, without surplus ones and with nulls for missing ones. -/
def fit (table : Table) (values : List Value) : List Value :=
  (values ++ List.replicate table.columns.length Value.null).take table.columns.length

/-- Builds a record from one value per field. -/
def build (table : Table) (values : List Value) : Except RecordError (List Value) :=
  (table.columns.zip (table.fit values)).mapM fun cell => cell.1.assign cell.2

/-- Builds a record from the values of a row. -/
def materialize (table : Table) (row : ResultRow) : Except RecordError (List Value) := do
  let converted ← (table.columns.zip (table.fit row.values)).mapM fun cell =>
    cell.1.convert cell.2
  table.build converted

/-! ### The log of a record -/

/-- Whether two names are the same in any letter case of the plain letters. -/
def sameName (left right : String) : Bool :=
  left.toList.map Char.toLower == right.toList.map Char.toLower

/-- What the log says about the label above a column. -/
def labelLog (table : Table) (labels : List String) (position : Nat) (column : Column) :
    List LogEntry :=
  match labels[position]? with
  | some label =>
    if sameName label column.name then
      []
    else
      [⟨.trace, "Column " ++ toString position ++ " of the result is named `" ++ label ++
        "`, reading it into `" ++ table.name ++ "." ++ column.field ++ "`"⟩]
  | none => []

/-- The number of columns whose labels are looked at: those up to the first one whose tag
refuses its value. -/
def labelsRead (table : Table) (values : List Value) : Nat :=
  let refused := (table.columns.zip (table.fit values)).findIdx? fun cell =>
    !(cell.1.convert cell.2).isOk
  match refused with
  | some position => position + 1
  | none => table.columns.length

/-- What the log says about the building of a record. -/
def materializeLog (table : Table) (row : ResultRow) : List LogEntry :=
  ((table.columns.take (table.labelsRead row.values)).zipIdx).flatMap fun entry =>
    table.labelLog row.labels entry.2 entry.1

end Table

end SqlRecords
