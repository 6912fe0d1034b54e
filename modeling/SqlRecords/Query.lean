/-
This file holds queries over the records of a table.

A query is its table and the clauses that were put on it, in the order in which they were put.
Putting a clause on a query gives a new query and leaves the old one as it was. Whether the
clauses make a statement is found out when the query is written.
-/

import SqlRecords.Expression
import SqlRecords.Table

namespace SqlRecords

/-- A clause of a query. -/
inductive Clause where
  | filter (predicate : Expression)
  | orderBy (key : Expression)
  | orderByDescending (key : Expression)
  | limit (count : Nat)
  /-- asks for the number of records instead of the records -/
  | count
deriving DecidableEq

/-- Whether a clause asks for the number of records. -/
def Clause.isCount : Clause → Bool
  | count => true
  | _ => false

/-- A query. -/
structure Query where
  source : Table
  clauses : List Clause
deriving DecidableEq

namespace Query

/-- The query for all records of a table. -/
def all (table : Table) : Query :=
  ⟨table, []⟩

/-- A query with one more clause. -/
def extend (query : Query) (clause : Clause) : Query :=
  { query with clauses := query.clauses ++ [clause] }

/-- Keeps the records that meet a predicate. -/
def filter (query : Query) (predicate : Expression) : Query :=
  query.extend (.filter predicate)

/-- Orders the records by a key. -/
def orderBy (query : Query) (key : Expression) : Query :=
  query.extend (.orderBy key)

/-- Orders the records by a key, greatest first. -/
def orderByDescending (query : Query) (key : Expression) : Query :=
  query.extend (.orderByDescending key)

/-- Keeps at most a number of records. -/
def limit (query : Query) (count : Nat) : Query :=
  query.extend (.limit count)

/-- Asks for the number of records. Order and limit stay in the statement and do not cap the
number. -/
def count (query : Query) : Query :=
  query.extend .count

/-- The number of steps a query was made in, the choice of its table included. -/
def depth (query : Query) : Nat :=
  query.clauses.length + 1

/-- Whether a query asks for the number of records. -/
def isCount (query : Query) : Bool :=
  query.clauses.any Clause.isCount

end Query

end SqlRecords
