/-
This file reads functions: what can be said in front of them, their parameters, what they give
and their bodies.

The first parameter may be the instance that a function is called on. A type in angle brackets
may stand where a parameter has no name; it is then one that is not used.
-/

import SqlRecords.Source.ExpressionGrammar

namespace SqlRecords.Source

variable (inner : Readers)

/-! ### Parameters -/

/-- Reads the instance that a function is called on. A reference to it has no type of its own. -/
def readReceiver : Reader (List Token) := do
  let reference ← Reader.given (Token.beginsWith "&")
    (Reader.inOrder [Reader.sign "&", Reader.optionalLifetime])
  let receiver ← Reader.inOrder [Reader.optionalWord "mut", Reader.word "self"]
  let type ← if reference.isEmpty then readColonType inner else pure []
  return reference ++ receiver ++ type

/-- Reads the points for any further parameters; a comma may follow. -/
def readFurtherParameters : Reader (List Token) :=
  Reader.inOrder [Reader.sign "...", Reader.optionalSign ","]

/-- Reads a parameter that is not the instance, and says whether it stands for any further
ones. -/
def readTypedParameter : Reader (Bool × List Token) := do
  let tokens ← get
  if Token.beginsName tokens && Token.beginsWith "<" (Token.behindFirst tokens) then
    return (false, [.word "_", .sign ':' false] ++ (← inner.typeTokens))
  else
    let front ← Reader.inOrder [inner.patternTokens, Reader.sign ":"]
    if ← Reader.ahead (Token.beginsWith "...") then
      return (true, front ++ (← readFurtherParameters))
    else
      return (false, front ++ (← inner.typeTokens))

/-- Reads a parameter behind its attributes, and says whether it stands for any further ones. -/
def readFunctionParameter (isFirst : Bool) : Reader (Bool × List Token) := fun tokens =>
  if Token.beginsWith "..." tokens then
    (do return (true, ← readFurtherParameters) : Reader (Bool × List Token)) tokens
  else
    match readReceiver inner tokens with
    | some (receiver, rest) => if isFirst then some ((false, receiver), rest) else none
    | none => readTypedParameter inner tokens

/-- Reads the parameters of a function. The bound is on their number. -/
def readFunctionParameters (isFirst : Bool) : Nat → Reader (List Token)
  | 0 => failure
  | bound + 1 => do
    if ← Reader.ahead Token.atEnd then
      return []
    else
      let attributes ← readAttributes inner
      let (isLast, parameter) ← readFunctionParameter inner isFirst
      if ← Reader.ahead fun tokens => isLast || Token.atEnd tokens then
        return attributes ++ parameter
      else
        let comma ← Reader.sign ","
        return attributes ++ parameter ++ comma ++ (← readFunctionParameters false bound)

/-! ### Signatures -/

/-- Reads the words in front of a function. Where it is only declared it may be called safe. -/
def readFunctionMarks (safe : Bool) : Reader (List Token) :=
  Reader.inOrder [Reader.optionalWord "const", Reader.optionalWord "async",
    if safe then
      Reader.given (Token.beginsWord ["safe", "unsafe"]) Reader.anyWord
    else
      Reader.optionalWord "unsafe",
    Reader.given (Token.beginsWord ["extern"]) readConvention]

/-- Whether tokens begin a function. -/
def beginsFunction (safe : Bool) (tokens : List Token) : Bool :=
  (readFunctionMarks safe tokens).any fun read => Token.beginsWord ["fn"] read.2

/-- Reads everything of a function in front of its body. -/
def readSignature (safe : Bool) : Reader (List Token) := do
  let parameters : Reader (List Token) := fun tokens =>
    readFunctionParameters inner true (tokens.length + 1) tokens
  Reader.inOrder [readFunctionMarks safe, Reader.word "fn", Reader.name, readGenerics inner,
    Reader.group .parenthesis parameters, readOpenResult inner, readConditions inner]

/-- Reads a function, and says whether it is kept as it is written, which it is when a semicolon
stands for its body. -/
def readFunction (front : Reader (List Token)) : Reader (Bool × List Token) := do
  let signature ← Reader.inOrder [front, readSignature inner false]
  if ← Reader.ahead (Token.beginsWith ";") then
    return (true, signature ++ (← Reader.sign ";"))
  else
    return (false, signature ++ (← readAttributedBlock inner))

end SqlRecords.Source
