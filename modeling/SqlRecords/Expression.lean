/-
This file holds the predicates and sort keys of queries.

An expression names the fields of a record, not the columns of its table; which column a field
is kept in is the business of whoever writes the expression for a table.
-/

import SqlRecords.Value

namespace SqlRecords

/-- The operators between two expressions. -/
inductive BinaryOperator where
  | and
  | or
  | equal
  | notEqual
  | less
  | lessEqual
  | greater
  | greaterEqual
deriving DecidableEq, Repr

/-- A predicate or a sort key. -/
inductive Expression where
  | binary (operator : BinaryOperator) (left right : Expression)
  | negation (operand : Expression)
  | field (name : String)
  | literal (value : Value)
deriving DecidableEq

namespace Expression

/-- Whether an expression is a literal null. -/
def isNullLiteral : Expression → Bool
  | literal value => value.isNull
  | _ => false

/-- Equality of expressions: the same tree, with equal values for literals. -/
def same : Expression → Expression → Bool
  | binary leftOperator leftFirst leftSecond, binary rightOperator rightFirst rightSecond =>
    leftOperator == rightOperator && leftFirst.same rightFirst && leftSecond.same rightSecond
  | negation left, negation right => left.same right
  | field left, field right => left == right
  | literal left, literal right => left.same right
  | _, _ => false

end Expression

end SqlRecords
