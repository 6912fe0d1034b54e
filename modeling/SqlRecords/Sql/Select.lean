/-
This file writes queries as SELECT statements.

The clauses of a query are written in the order in which they were put on it, so they have to
come in the order of a statement: filters, then sort keys, then at most one limit. A clause that
comes too late stops the writing. Asking for the number of records changes only the beginning
of the statement, wherever among the clauses it stands.
-/

import SqlRecords.Query
import SqlRecords.Sql.Predicate

namespace SqlRecords

/-- A text without the blank at its end, if it ends in one. -/
def dropFinalBlank (text : String) : String :=
  if text.toList.getLast? = some ' ' then String.ofList text.toList.dropLast else text

/-- Writes what comes before a sort key: the start of the clause, or a comma, before which the
blank behind a descending key is taken back. -/
def writeOrderMark : Fragment → Writer Unit
  | .selectFrom | .selectWhere => TextWriter.write " ORDER BY "
  | .selectOrderBy => do
    modify dropFinalBlank
    TextWriter.write ", "
  | _ => throw .orderTooLate

/-- Writes a clause in the place that the clauses before it have reached, and gives the place it
reaches. -/
def Dialect.writeClause (dialect : Dialect) (table : Table) (fragment : Fragment) :
    Clause → Writer Fragment
  | .filter predicate => do
    match fragment with
    | .selectFrom => TextWriter.write " WHERE "
    | .selectWhere => TextWriter.write " AND "
    | _ => throw .filterTooLate
    dialect.writeExpression ⟨.selectWhere, some table⟩ predicate
    return .selectWhere
  | .orderBy key => do
    writeOrderMark fragment
    dialect.writeExpression ⟨.selectOrderBy, some table⟩ key
    return .selectOrderBy
  | .orderByDescending key => do
    writeOrderMark fragment
    dialect.writeExpression ⟨.selectOrderBy, some table⟩ key
    TextWriter.write " DESC "
    return .selectOrderBy
  | .limit count => do
    if fragment = .selectLimit then throw .secondLimit
    TextWriter.write (" LIMIT " ++ toString count)
    return .selectLimit
  | .count => return fragment

/-- Writes clauses from the place that the clauses before them have reached. -/
def Dialect.writeClauses (dialect : Dialect) (table : Table) : Fragment → List Clause → Writer Unit
  | _, [] => pure ()
  | fragment, clause :: rest => do
    let reached ← dialect.writeClause table fragment clause
    dialect.writeClauses table reached rest

/-- Writes a query as a SELECT statement. -/
def Dialect.writeQuery (dialect : Dialect) (query : Query) : Writer Unit := do
  TextWriter.write (if query.isCount then "SELECT COUNT(*)" else "SELECT *")
  TextWriter.write " FROM "
  TextWriter.write query.source.name
  dialect.writeClauses query.source .selectFrom query.clauses

end SqlRecords
