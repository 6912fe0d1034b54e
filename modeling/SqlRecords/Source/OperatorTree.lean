/-
This file holds the operator trees that predicates are written as.

The nodes of a tree are operators and parentheses; everything else is an operand, of which only
the tokens are kept. Operators have a strength: of two operators next to one another, the stronger
one takes the operand between them.
-/

import SqlRecords.Source.Token

namespace SqlRecords.Source

/-! ### Operators -/

/-- The operators between two operands. -/
inductive BinarySign where
  | and
  | or
  | equal
  | notEqual
  | less
  | lessEqual
  | greater
  | greaterEqual
  | add
  | subtract
  | multiply
  | divide
  | remainder
  | bitAnd
  | bitOr
  | bitXor
  | shiftLeft
  | shiftRight
  | addTo
  | subtractFrom
  | multiplyBy
  | divideBy
  | remainderBy
  | bitAndWith
  | bitOrWith
  | bitXorWith
  | shiftLeftBy
  | shiftRightBy
deriving DecidableEq, Repr

/-- The operators in front of an operand. -/
inductive UnarySign where
  | not
  | negate
  | follow
deriving DecidableEq, Repr

/-- How strongly an operator binds its operands, from the weakest to the strongest. -/
inductive Strength where
  | loose
  | assignment
  | range
  | or
  | and
  | condition
  | comparison
  | bitOr
  | bitXor
  | bitAnd
  | shift
  | sum
  | product
  | cast
deriving DecidableEq, Repr

/-- The place of a strength among all of them. -/
def Strength.rank : Strength → Nat
  | loose => 0
  | assignment => 1
  | range => 2
  | or => 3
  | and => 4
  | condition => 5
  | comparison => 6
  | bitOr => 7
  | bitXor => 8
  | bitAnd => 9
  | shift => 10
  | sum => 11
  | product => 12
  | cast => 13

namespace BinarySign

/-- How an operator is written. -/
def text : BinarySign → String
  | and => "&&"
  | or => "||"
  | equal => "=="
  | notEqual => "!="
  | less => "<"
  | lessEqual => "<="
  | greater => ">"
  | greaterEqual => ">="
  | add => "+"
  | subtract => "-"
  | multiply => "*"
  | divide => "/"
  | remainder => "%"
  | bitAnd => "&"
  | bitOr => "|"
  | bitXor => "^"
  | shiftLeft => "<<"
  | shiftRight => ">>"
  | addTo => "+="
  | subtractFrom => "-="
  | multiplyBy => "*="
  | divideBy => "/="
  | remainderBy => "%="
  | bitAndWith => "&="
  | bitOrWith => "|="
  | bitXorWith => "^="
  | shiftLeftBy => "<<="
  | shiftRightBy => ">>="

/-- The strength of an operator. -/
def strength : BinarySign → Strength
  | and => .and
  | or => .or
  | equal | notEqual | less | lessEqual | greater | greaterEqual => .comparison
  | add | subtract => .sum
  | multiply | divide | remainder => .product
  | bitAnd => .bitAnd
  | bitOr => .bitOr
  | bitXor => .bitXor
  | shiftLeft | shiftRight => .shift
  | addTo | subtractFrom | multiplyBy | divideBy | remainderBy | bitAndWith | bitOrWith
  | bitXorWith | shiftLeftBy | shiftRightBy => .assignment

/-- The operators, every one before those that it begins with. -/
def all : List BinarySign :=
  [shiftLeftBy, shiftRightBy, addTo, subtractFrom, multiplyBy, divideBy, remainderBy, bitXorWith,
    bitAndWith, bitOrWith, and, or, shiftLeft, shiftRight, equal, lessEqual, notEqual,
    greaterEqual, add, subtract, multiply, divide, remainder, bitXor, bitAnd, bitOr, less,
    greater]

end BinarySign

/-- How an operator is written. -/
def UnarySign.text : UnarySign → String
  | not => "!"
  | negate => "-"
  | follow => "*"

/-! ### Trees -/

/-- An operator tree. -/
inductive OperatorTree where
  | binary (sign : BinarySign) (left right : OperatorTree)
  | unary (sign : UnarySign) (operand : OperatorTree)
  /-- a tree in parentheses, or in a group that has no delimiters to be seen -/
  | enclosed (inner : OperatorTree)
  /-- the word for the absence of a value -/
  | absent
  /-- anything else -/
  | operand (tokens : List Token)
deriving DecidableEq, Repr

/-- Whether the topmost node of a tree compares. -/
def OperatorTree.isComparison : OperatorTree → Bool
  | binary sign _ _ => sign.strength = .comparison
  | _ => false

end SqlRecords.Source
