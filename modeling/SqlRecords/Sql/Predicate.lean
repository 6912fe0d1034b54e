/-
This file writes expressions as SQL.

Every operator between two expressions is written in parentheses; a negation is written in front
of its operand without any. A comparison for equality whose right side is a literal null becomes
a test for null.
-/

import SqlRecords.Expression
import SqlRecords.Sql.Literal

namespace SqlRecords

/-- The word or sign of an operator, for a right side that is a literal null or not. -/
def BinaryOperator.text (nullRight : Bool) : BinaryOperator → String
  | and => " AND "
  | or => " OR "
  | equal => if nullRight then " IS " else " = "
  | notEqual => if nullRight then " IS NOT " else " <> "
  | less => " < "
  | lessEqual => " <= "
  | greater => " > "
  | greaterEqual => " >= "

/-- The name that a field has in a statement: that of its column in the table of the context. -/
def Context.columnName (context : Context) (field : String) : String :=
  match context.table with
  | some table => table.columnName field
  | none => field

/-- Writes an expression. -/
def Dialect.writeExpression (dialect : Dialect) (context : Context) : Expression → Writer Unit
  | .binary operator left right => do
    TextWriter.write "("
    dialect.writeExpression context left
    TextWriter.write (operator.text right.isNullLiteral)
    dialect.writeExpression context right
    TextWriter.write ")"
  | .negation operand => do
    TextWriter.write " NOT "
    dialect.writeExpression context operand
  | .field name => TextWriter.write (context.columnName name)
  | .literal value => dialect.writeValue context value

end SqlRecords
