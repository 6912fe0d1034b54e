/-
This file writes the statements that change a table: INSERT, UPDATE and DELETE.

A record is given as its row, the list of the values of its fields in the order of the columns;
a row that is too short or too long is used as far as it goes. Columns that are not mapped are
left out everywhere. The server's own columns are inserted as NULL and never assigned.

A DELETE always names one record by its primary key. An UPDATE does so where the table has one;
without one it changes every record, which the log points out.
-/

import SqlRecords.Sql.Literal

namespace SqlRecords

/-! ### INSERT -/

/-- Writes what an INSERT says about one column of a record. -/
def Dialect.writeInserted (dialect : Dialect) (context : Context) (cell : Column × Value) :
    Writer Unit :=
  if !cell.1.mapped then pure ()
  else if cell.1.generated then TextWriter.write "NULL"
  else dialect.writeValue context cell.2

/-- Writes the tuple of one record of an INSERT. -/
def Dialect.writeTuple (dialect : Dialect) (table : Table) (row : List Value) : Writer Unit := do
  TextWriter.write "("
  TextWriter.separated (dialect.writeInserted ⟨.insertIntoValues, some table⟩) ","
    (table.columns.zip row)
  TextWriter.write ")"

/-- Writes the INSERT of a batch of records. -/
def Dialect.writeInsert (dialect : Dialect) (table : Table) (rows : List (List Value)) :
    Writer Unit := do
  if rows.isEmpty then throw (.emptyBatch table.name)
  TextWriter.write "INSERT INTO "
  TextWriter.write table.name
  TextWriter.write " VALUES "
  TextWriter.separated (dialect.writeTuple table) "," rows

/-! ### Keys -/

/-- The value of a row at the position of the primary key. -/
def keyValue (table : Table) (row : List Value) (position : Nat) : Writer Value :=
  match row[position]? with
  | some value => pure value
  | none => throw (.missingKeyValue table.name position)

/-- Writes a column, an equals sign and a value. -/
def Dialect.writeMatch (dialect : Dialect) (context : Context) (column : String)
    (value : Value) : Writer Unit := do
  TextWriter.write column
  TextWriter.write "="
  dialect.writeValue context value

/-! ### UPDATE -/

/-- Writes what an UPDATE says about one column of a record. -/
def Dialect.writeAssignment (dialect : Dialect) (context : Context) (cell : Column × Value) :
    Writer Unit :=
  if !cell.1.mapped || cell.1.generated then pure ()
  else dialect.writeMatch context cell.1.name cell.2

/-- Writes the UPDATE of a record. -/
def Dialect.writeUpdate (dialect : Dialect) (table : Table) (row : List Value) :
    Writer Unit := do
  TextWriter.write "UPDATE "
  TextWriter.write table.name
  TextWriter.write " SET "
  let mark ← get
  TextWriter.separated (dialect.writeAssignment ⟨.updateSet, some table⟩) ","
    (table.columns.zip row)
  if (← get).utf8ByteSize = mark.utf8ByteSize then throw (.nothingToUpdate table.name)
  match table.primaryKey? with
  | some (position, column) => do
    TextWriter.write " WHERE "
    let value ← keyValue table row position
    dialect.writeMatch ⟨.updateWhere, some table⟩ column.name value
  | none => pure ()

/-- What the log says about an UPDATE that could be written. -/
def Table.updateLog (table : Table) : List LogEntry :=
  if table.primaryKey?.isNone then
    [⟨.warning, "Updating `" ++ table.name ++
      "` without a primary key, the statement affects every row"⟩]
  else
    []

/-! ### DELETE -/

/-- Writes the DELETE of a record. -/
def Dialect.writeDelete (dialect : Dialect) (table : Table) (row : List Value) :
    Writer Unit := do
  match table.primaryKey? with
  | none => throw (.missingPrimaryKey table.name)
  | some (position, column) => do
    TextWriter.write "DELETE FROM "
    TextWriter.write table.name
    TextWriter.write " WHERE "
    let value ← keyValue table row position
    dialect.writeMatch ⟨.deleteFromWhere, some table⟩ column.name value

end SqlRecords
