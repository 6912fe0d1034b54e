/-
This file describes tables: the columns that the fields of a record are kept in.

A table lists one column for every field of its records, in the order of the fields. A column
that is not mapped belongs to a field that is not stored; statements leave it out. The first
mapped column marked as primary key identifies a record.
-/

import SqlRecords.Value.Tag

namespace SqlRecords

/-- The column that a field of a record is kept in. -/
structure Column where
  /-- the name of the field -/
  field : String
  /-- the name of the column -/
  name : String
  /-- the database type that drives the conversion of values read from the column -/
  tag : Option ColumnTag := none
  primaryKey : Bool := false
  /-- whether the server assigns the value, so that statements do not -/
  generated : Bool := false
  nullable : Bool := false
  /-- whether the field is stored at all -/
  mapped : Bool := true
  /-- the type of the field; a field without one holds any value as it is -/
  type : Option FieldType := none
deriving DecidableEq

/-- A table. -/
structure Table where
  name : String
  /-- the columns in the order of the fields -/
  columns : List Column
deriving DecidableEq

namespace Table

/-- The first mapped column marked as primary key, with its position among the columns. -/
def primaryKey? (table : Table) : Option (Nat × Column) :=
  (table.columns.zipIdx.find? fun entry => entry.1.mapped && entry.1.primaryKey).map Prod.swap

/-- The first column that keeps a field. -/
def column? (table : Table) (field : String) : Option Column :=
  table.columns.find? fun column => column.field == field

/-- The name of the column that keeps a field, the name of the field itself when no column
does. -/
def columnName (table : Table) (field : String) : String :=
  match table.column? field with
  | some column => column.name
  | none => field

end Table

end SqlRecords
