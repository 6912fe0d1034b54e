/-
This file turns operator trees into formulas, the predicates that can be written with operators.

A tree may use the logical operators, the comparisons and the negation. Parentheses leave no
trace, the word for the absence of a value becomes a null, and of every other operand the text is
kept, without white space between its tokens. Trees with any other operator are refused, and the
operator that is named is the first one on the way from the root to the leaves, left before right.

What the operands of a formula stand for is up to whoever uses it; with a meaning for each of
them, a formula is an expression.
-/

import SqlRecords.Expression
import SqlRecords.Source.ReaderStack
import SqlRecords.Source.Scan

namespace SqlRecords

/-! ### Formulas -/

/-- A predicate written with operators. -/
inductive Formula where
  | binary (operator : BinaryOperator) (left right : Formula)
  | negation (operand : Formula)
  | null
  | operand (text : String)
deriving DecidableEq

namespace Formula

/-- Why a text is not a formula. -/
inductive Error where
  | notAnExpression
  /-- an operator that predicates do not have -/
  | unsupported (operator : String)
deriving DecidableEq, Repr

/-- The wording of the reason. -/
def Error.message : Error → String
  | notAnExpression => "expected an expression"
  | unsupported operator =>
    "Operator `" ++ operator ++ "` is not supported in a query expression"

/-! ### From trees to formulas -/

/-- The operator of predicates that a sign stands for, if it stands for one. -/
def operator? : Source.BinarySign → Option BinaryOperator
  | .and => some .and
  | .or => some .or
  | .equal => some .equal
  | .notEqual => some .notEqual
  | .less => some .less
  | .lessEqual => some .lessEqual
  | .greater => some .greater
  | .greaterEqual => some .greaterEqual
  | _ => none

/-- The formula of an operator tree. -/
def ofTree : Source.OperatorTree → Except Error Formula
  | .binary sign left right =>
    match operator? sign with
    | some operator => do
      let left ← ofTree left
      let right ← ofTree right
      return .binary operator left right
    | none => .error (.unsupported sign.text)
  | .unary .not inner => do return .negation (← ofTree inner)
  | .unary sign _ => .error (.unsupported sign.text)
  | .enclosed inner => ofTree inner
  | .absent => .ok .null
  | .operand tokens => .ok (.operand (Source.Token.textOf tokens))

/-- The formula that a text is. -/
def ofText (text : String) : Except Error Formula :=
  match (Source.scan text).bind Source.treeOfTokens? with
  | some tree => ofTree tree
  | none => .error .notAnExpression

/-! ### From formulas to expressions -/

/-- The expression of a formula, when every operand has a meaning. -/
def toExpression? (meaning : String → Option Expression) : Formula → Option Expression
  | binary operator left right => do
    some (.binary operator (← toExpression? meaning left) (← toExpression? meaning right))
  | negation inner => do some (.negation (← toExpression? meaning inner))
  | null => some (.literal .null)
  | operand text => meaning text

end Formula

end SqlRecords
