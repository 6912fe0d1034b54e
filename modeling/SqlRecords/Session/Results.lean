/-
This file says what is made of the items that a server answers to a statement.

The answer is a list of items, each a row, a count of changed rows or an error. Fetching rows
passes over the counts, counting passes over the rows. A single value is taken from whatever row
or error comes first. Records are built from rows one by one: on their own every row gives a
record or an error, while the records of a query end with the first error.
-/

import SqlRecords.Error

namespace SqlRecords

/-- An item of an answer, or the error that stands in its place. -/
abbrev Answer := Except Error ResultItem

namespace Answer

/-- The rows and errors of an answer. -/
def rows (answers : List Answer) : List (Except Error ResultRow) :=
  answers.filterMap fun answer =>
    match answer with
    | .ok (.row row) => some (.ok row)
    | .ok (.affected _) => none
    | .error error => some (.error error)

/-- The counts and errors of an answer. -/
def counts (answers : List Answer) : List (Except Error RowsAffected) :=
  answers.filterMap fun answer =>
    match answer with
    | .ok (.row _) => none
    | .ok (.affected counts) => some (.ok counts)
    | .error error => some (.error error)

/-- The changed rows of an answer together, or its first error. -/
def affected (answers : List Answer) : Except Error RowsAffected :=
  ((counts answers).mapM id).map RowsAffected.none.extend

/-- The first value of the first row, null where there is none, or the error that comes
first. -/
def scalar (answers : List Answer) : Except Error Value :=
  match rows answers with
  | [] => .ok .null
  | .ok row :: _ => .ok (row.values.headD .null)
  | .error error :: _ => .error error

/-- The number that a query for the number of records answers; a null counts as none. -/
def number (answers : List Answer) : Except Error Nat := do
  let value ← scalar answers
  if value.isNull then
    return 0
  else
    let number ← (Conversion.integerOfValue .uint64 value).mapError .conversion
    return number.value.toNat

end Answer

namespace Table

/-- The record of a row that may be an error. -/
def materializeItem (table : Table) (row : Except Error ResultRow) : Except Error (List Value) := do
  (table.materialize (← row)).mapError .record

/-- The records of rows, one for each. -/
def materializeAll (table : Table) (rows : List (Except Error ResultRow)) :
    List (Except Error (List Value)) :=
  rows.map table.materializeItem

/-- What the log says about the building of the records of rows. -/
def materializeAllLog (table : Table) (rows : List (Except Error ResultRow)) : List LogEntry :=
  rows.flatMap fun row =>
    match row with
    | .ok row => table.materializeLog row
    | .error _ => []

end Table

/-- The items of a list up to the first error, that one included. -/
def untilError {Item : Type} : List (Except Error Item) → List (Except Error Item)
  | [] => []
  | .ok item :: rest => .ok item :: untilError rest
  | .error error :: _ => [.error error]

end SqlRecords
