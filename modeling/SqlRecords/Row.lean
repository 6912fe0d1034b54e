/-
This file holds what a server answers to a statement: rows with named columns, and counts of
changed rows.

A row's names and values are matched by position; a server may give more of the one than of the
other. Counts add up over the answers to one statement, and the last identifier the server
assigned is the one that is kept.
-/

import SqlRecords.Value

namespace SqlRecords

/-- A row of a result. -/
structure ResultRow where
  /-- the names of the columns -/
  labels : List String
  values : List Value
deriving DecidableEq

namespace ResultRow

/-- The number of values of a row. -/
def length (row : ResultRow) : Nat :=
  row.values.length

/-- Whether a row has no values. -/
def isEmpty (row : ResultRow) : Bool :=
  row.values.isEmpty

/-- The value of the first column with a name, if the row has the column and the value. -/
def get? (row : ResultRow) (label : String) : Option Value :=
  (row.labels.findIdx? (· == label)).bind fun position => row.values[position]?

end ResultRow

/-- How many rows a statement changed, and the last identifier the server assigned to one. -/
structure RowsAffected where
  count : Nat
  lastId : Option Int
deriving DecidableEq, Repr

namespace RowsAffected

/-- No rows changed. -/
def none : RowsAffected :=
  ⟨0, Option.none⟩

/-- The counts of two answers together. -/
def add (first second : RowsAffected) : RowsAffected :=
  ⟨first.count + second.count, second.lastId <|> first.lastId⟩

/-- A count and those of the answers after it together. -/
def extend (start : RowsAffected) (items : List RowsAffected) : RowsAffected :=
  items.foldl add start

end RowsAffected

/-- What a server answers. -/
inductive ResultItem where
  | row (content : ResultRow)
  | affected (counts : RowsAffected)
deriving DecidableEq

end SqlRecords
