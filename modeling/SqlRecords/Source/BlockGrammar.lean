/-
This file reads the expressions that end in a block: conditions, loops, matches and blocks.

In front of a block a brace behind a name begins the block and not the fields of a record. The
body of an arm of a match that is itself such an expression ends the arm.
-/

import SqlRecords.Source.PatternGrammar

namespace SqlRecords.Source

variable (inner : Readers)

/-! ### Conditions and loops -/

/-- Reads an expression in front of a block. -/
def readHead : Reader (List Token) := do
  return (← inner.expression false).tokens

/-- Reads a condition with the block behind it. -/
def readClause : Reader (List Token) :=
  Reader.inOrder [Reader.word "if", readHead inner, inner.block]

/-- Whether tokens begin a further condition. -/
def beginsFurtherClause (tokens : List Token) : Bool :=
  Token.beginsWord ["else"] tokens && Token.beginsWord ["if"] (Token.behindFirst tokens)

/-- Reads conditions with their blocks, and perhaps a block for when none of them holds. -/
def readConditional : Reader (List Token) := do
  let first ← readClause inner
  let others ← Reader.many beginsFurtherClause
    (Reader.inOrder [Reader.word "else", readClause inner])
  let last ← Reader.given (Token.beginsWord ["else"])
    (Reader.inOrder [Reader.word "else", inner.block])
  return first ++ others.flatten ++ last

/-- Reads a loop that goes on as long as a condition holds. -/
def readRepetition : Reader (List Token) :=
  Reader.inOrder [Reader.word "while", readHead inner, readAttributedBlock inner]

/-- Reads a loop over the elements of something. -/
def readIteration : Reader (List Token) :=
  Reader.inOrder [Reader.word "for", readAlternativesTokens inner, Reader.word "in",
    readHead inner, readAttributedBlock inner]

/-- Reads a loop without an end of its own. -/
def readEndlessLoop : Reader (List Token) :=
  Reader.inOrder [Reader.word "loop", readAttributedBlock inner]

/-! ### Matches -/

/-- Reads the comma behind the body of an arm. It can be missing behind the last arm, and behind
a block. -/
def readArmEnd (kind : PhraseKind) : Reader (List Token) := do
  let tokens ← get
  if Token.beginsWith "," tokens then Reader.sign ","
  else if kind = .block || Token.atEnd tokens then return []
  else failure

/-- Reads an arm of a match. -/
def readArm : Reader (List Token) := do
  let front ← Reader.inOrder [readAttributes inner, readAlternativesTokens inner,
    Reader.given (Token.beginsWord ["if"])
      (Reader.inOrder [Reader.word "if", inner.expressionTokens]),
    Reader.sign "=>"]
  let body ← inner.bounded
  return front ++ body.tokens ++ (← readArmEnd body.kind)

/-- Reads a match. -/
def readMatch : Reader (List Token) := do
  let arms := Reader.many (fun tokens => !Token.atEnd tokens) (readArm inner)
  Reader.inOrder [Reader.word "match", readHead inner, Reader.group .brace
    (Reader.inOrder [readInnerAttributes inner, List.flatten <$> arms])]

/-! ### Blocks -/

/-- Reads a loop or a block with a label. -/
def readLabeled : Reader (List Token) := do
  let label ← Reader.inOrder [Reader.lifetime, Reader.sign ":"]
  let tokens ← get
  if Token.beginsWord ["while"] tokens then return label ++ (← readRepetition inner)
  else if Token.beginsWord ["for"] tokens then return label ++ (← readIteration inner)
  else if Token.beginsWord ["loop"] tokens then return label ++ (← readEndlessLoop inner)
  else return label ++ (← readAttributedBlock inner)

/-- Whether tokens begin with the parameters that a closure introduces. -/
def beginsClosureBinder (tokens : List Token) : Bool :=
  let second := Token.behindFirst tokens
  let third := Token.behindFirst second
  Token.beginsWord ["for"] tokens && Token.beginsWith "<" second &&
    (Token.beginsLifetime third || Token.beginsWith ">" third)

/-- Whether tokens begin an expression that ends in a block and stands as a statement by
itself. -/
def beginsBlockLike (tokens : List Token) : Bool :=
  Token.opens .brace tokens || Token.beginsLifetime tokens ||
    Token.beginsWord ["if", "while", "for", "loop", "match", "unsafe"] tokens &&
      !beginsClosureBinder tokens ||
    Token.beginsWord ["const", "try"] tokens && Token.opens .brace (Token.behindFirst tokens)

/-- Reads an expression that ends in a block and stands as a statement by itself. -/
def readBlockLike : Reader (List Token) := do
  let tokens ← get
  if Token.opens .brace tokens then readAttributedBlock inner
  else if Token.beginsLifetime tokens then readLabeled inner
  else if Token.beginsWord ["if"] tokens then readConditional inner
  else if Token.beginsWord ["while"] tokens then readRepetition inner
  else if Token.beginsWord ["for"] tokens then readIteration inner
  else if Token.beginsWord ["loop"] tokens then readEndlessLoop inner
  else if Token.beginsWord ["match"] tokens then readMatch inner
  else if Token.beginsWord ["try"] tokens then Reader.inOrder [Reader.word "try", inner.block]
  else Reader.inOrder [Reader.word "unsafe" <|> Reader.word "const", readAttributedBlock inner]

end SqlRecords.Source
