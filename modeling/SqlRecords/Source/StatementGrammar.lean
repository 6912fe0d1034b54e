/-
This file reads statements: bindings, items, macros and expressions.

A statement that is an expression ends in a semicolon, unless it is the last one or ends in a
block.
-/

import SqlRecords.Source.ItemGrammar

namespace SqlRecords.Source

variable (inner : Readers)

/-! ### Bindings -/

/-- Reads the value of a binding, and a block for when the pattern does not fit, which cannot
follow a brace. -/
def readBindingValue : Reader (List Token) := do
  let mark ← Reader.sign "="
  let value ← inner.expressionTokens
  let hasBlock := fun tokens => !Token.endsInBrace value && Token.beginsWord ["else"] tokens
  return mark ++ value ++ (← Reader.given hasBlock
    (Reader.inOrder [Reader.word "else", inner.block]))

/-- Reads a binding. -/
def readBinding : Reader (List Token) :=
  Reader.inOrder [Reader.word "let", inner.patternTokens, readColonType inner,
    Reader.given (Token.beginsWith "=") (readBindingValue inner), Reader.sign ";"]

/-! ### What a statement is -/

/-- What a macro at the beginning of a statement is. -/
inductive MacroUse where
  | none
  | statement
  | item
deriving DecidableEq, Repr

/-- What the macro is that a statement begins with. One in braces is a statement of its own,
unless a point or a question follows. -/
def macroUse (tokens : List Token) : MacroUse :=
  match readModulePath tokens with
  | some (_, rest) =>
    let second := Token.behindFirst rest
    let third := Token.behindFirst second
    if !Token.beginsWith "!" rest then .none
    else if Token.beginsName second || Token.beginsWord ["try"] second then .item
    else if Token.opens .brace second &&
        !(Token.beginsSinglePoint third || Token.beginsWith "?" third) then .statement
    else .none
  | none => .none

/-- The words that begin an item whatever follows them. -/
def itemWords : List String :=
  ["pub", "extern", "use", "fn", "mod", "type", "struct", "enum", "trait", "impl", "macro"]

/-- Whether tokens begin a place in memory, and not a closure. -/
def beginsStatic (tokens : List Token) : Bool :=
  let second := Token.behindFirst tokens
  Token.beginsWord ["static"] tokens &&
    (Token.beginsWord ["mut"] second || Token.beginsName second)

/-- Whether tokens begin a constant or a constant function, and no block or closure. -/
def beginsConstant (tokens : List Token) : Bool :=
  let second := Token.behindFirst tokens
  let isFunction := Token.beginsWord ["unsafe", "extern", "fn"] (Token.behindFirst second)
  Token.beginsWord ["const"] tokens && !(Token.opens .brace second ||
    Token.beginsWord ["static", "move"] second || Token.beginsWith "|" second ||
    Token.beginsWord ["async"] second && !isFunction)

/-- Whether tokens begin an item. -/
def beginsItem (tokens : List Token) : Bool :=
  let second := Token.behindFirst tokens
  let begins := fun word others =>
    Token.beginsWord [word] tokens && Token.beginsWord others second
  Token.beginsWord itemWords tokens || beginsStatic tokens || beginsConstant tokens ||
    Token.beginsWord ["crate"] tokens && !Token.beginsWith "::" second ||
    Token.beginsWord ["unsafe"] tokens && !Token.opens .brace second ||
    begins "async" ["unsafe", "extern", "fn"] || begins "auto" ["trait"] ||
    begins "default" ["unsafe", "impl"] ||
    Token.beginsWord ["union"] tokens && Token.beginsName second

/-! ### Statements -/

/-- Reads a macro that is a statement. -/
def readMacroStatement : Reader (List Token) :=
  Reader.inOrder [readModulePath, readMacro, Reader.optionalSign ";"]

/-- Reads an expression that is a statement with its attributes, and says whether nothing can
follow it. -/
def readExpressionStatement (attributes : List Token) : Reader (Bool × List Token) := do
  let phrase ← inner.bounded
  let semicolon ← Reader.optionalSign ";"
  let endsItself := phrase.kind = .block || phrase.kind = .macroInBraces
  return (semicolon.isEmpty && !endsItself, (phrase.withAttributes attributes).tokens ++ semicolon)

/-- Reads a statement, and says whether nothing can follow it. -/
def readStatement : Reader (Bool × List Token) := do
  let start ← get
  let attributes ← readAttributes inner
  let tokens ← get
  let use := macroUse tokens
  if use = .statement then
    return (false, attributes ++ (← readMacroStatement))
  else if Token.beginsWord ["let"] tokens then
    return (false, attributes ++ (← readBinding inner))
  else if use = .item || beginsItem tokens then
    let (isWritten, item) ← inner.item
    let rest ← get
    return (false, if isWritten then Token.before start rest else attributes ++ item)
  else
    readExpressionStatement inner attributes

/-- Reads statements. The bound is on their number. -/
def readStatementsWithin : Nat → Reader (List Token)
  | 0 => failure
  | bound + 1 => do
    let semicolons ← Reader.many (Token.beginsWith ";") (Reader.sign ";")
    if ← Reader.ahead Token.atEnd then
      return semicolons.flatten
    else
      let (isLast, statement) ← readStatement inner
      if ← Reader.ahead fun tokens => isLast && !Token.atEnd tokens then failure
      else return semicolons.flatten ++ statement ++ (← readStatementsWithin bound)

/-- Reads statements. -/
def readStatements : Reader (List Token) := fun tokens =>
  readStatementsWithin inner (tokens.length + 1) tokens

end SqlRecords.Source
