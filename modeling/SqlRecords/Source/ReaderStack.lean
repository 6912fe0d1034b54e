/-
This file stacks the readers of attributes, types, patterns, expressions and items.

Every layer of the stack reads what is written inside a construct with the layer below it. A
construct has at least one token, so a stack that is some times as high as there are tokens reads
all of them.
-/

import SqlRecords.Source.StatementGrammar

namespace SqlRecords.Source

/-! ### Layers -/

/-- The readers of a layer, which read with those of the layer below. -/
def Readers.above (inner : Readers) : Readers where
  expression := readExpression inner
  operand := readOperand inner
  operators := readOperators inner
  bounded := readBoundedExpression inner
  type := readType inner
  bound := readBound inner
  pattern := readPattern inner
  statements := readStatements inner
  item := readItem inner
  imports := readImports inner

/-- The readers on a stack of a height. -/
def Readers.stack : Nat → Readers
  | 0 => .nothing
  | height + 1 => (stack height).above

/-- The readers that read all of some tokens. A construct goes down a few layers between two
tokens at most. -/
def Readers.covering (tokens : List Token) : Readers :=
  stack (4 * tokens.length + 8)

/-! ### Reading all of some tokens -/

/-- What a reader reads if the tokens have nothing else in them. -/
def Reader.whole? {Result : Type} (reader : Readers → Reader Result) (tokens : List Token) :
    Option Result :=
  match reader (.covering tokens) tokens with
  | some (result, []) => some result
  | _ => none

/-- The operator tree of an expression, if the tokens are one. -/
def treeOfTokens? (tokens : List Token) : Option OperatorTree :=
  Reader.whole? (fun readers => Phrase.tree <$> readers.expression true) tokens

end SqlRecords.Source
