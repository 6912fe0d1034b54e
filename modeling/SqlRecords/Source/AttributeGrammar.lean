/-
This file reads attributes.

An attribute has a path and behind it nothing, a group in delimiters, or an equals sign and a
value. The value is an expression, which may not begin with an attribute of its own. An outer
attribute belongs to what follows it; an inner one, marked by an exclamation mark, belongs to
what it stands in.
-/

import SqlRecords.Source.Grammar

namespace SqlRecords.Source

/-- What stands behind the path of an attribute. -/
inductive AttributeContent where
  | nothing
  | value
  /-- the tokens of a group, without its delimiters -/
  | list (inside : List Token)
deriving DecidableEq, Repr

/-- An attribute that was read. -/
structure AttributeForm where
  path : List Token
  content : AttributeContent
  tokens : List Token
deriving DecidableEq, Repr

/-- The tokens of attributes. -/
def AttributeForm.tokensOf (attributes : List AttributeForm) : List Token :=
  attributes.flatMap AttributeForm.tokens

/-- Reads the value of an attribute. -/
def readAttributeValue (inner : Readers) : Reader (List Token) := fun tokens =>
  match Reader.literal tokens with
  | some (value, rest) =>
    if Token.atEnd rest then some (value, rest) else inner.expressionTokens tokens
  | none =>
    if Token.beginsWith "#" tokens && Token.opens .bracket (Token.behindFirst tokens) then none
    else inner.expressionTokens tokens

/-- Whether a group in any delimiters is ahead. -/
def beginsGroup (tokens : List Token) : Bool :=
  Token.opens .parenthesis tokens || Token.opens .bracket tokens || Token.opens .brace tokens

/-- Reads what stands behind the path of an attribute. -/
def readAttributeContent (inner : Readers) : Reader (AttributeContent × List Token) := do
  let tokens ← get
  if beginsGroup tokens then
    let read ← Reader.anyGroup
    return (.list (read.drop 1).dropLast, read)
  else if Token.beginsWith "=" tokens && !Token.beginsWithAny ["==", "=>"] tokens then
    let equals ← Reader.sign "="
    return (.value, equals ++ (← readAttributeValue inner))
  else
    return (.nothing, [])

/-- Reads what stands in the brackets of an attribute. -/
def readAttributeInside (inner : Readers) : Reader AttributeForm := do
  let path ←
    if ← Reader.ahead (Token.beginsWord ["unsafe"]) then Reader.anyWord else readModulePath
  let (content, behind) ← readAttributeContent inner
  return ⟨path, content, path ++ behind⟩

/-- Reads an attribute with given signs in front of its brackets. -/
def readAttribute (inner : Readers) (marks : List String) : Reader AttributeForm := do
  let front ← Reader.inOrder (marks.map Reader.sign)
  let opening ← Reader.single (· = .opening .bracket)
  let inside ← readAttributeInside inner
  let closing ← Reader.single (· = .closing .bracket)
  return { inside with tokens := front ++ opening ++ inside.tokens ++ closing }

/-- Reads the attributes of what follows them. -/
def readAttributeForms (inner : Readers) : Reader (List AttributeForm) :=
  Reader.many (Token.beginsWith "#") (readAttribute inner ["#"])

/-- Reads the attributes of what follows them. -/
def readAttributes (inner : Readers) : Reader (List Token) := do
  return AttributeForm.tokensOf (← readAttributeForms inner)

/-- Reads the attributes of what they stand in. -/
def readInnerAttributes (inner : Readers) : Reader (List Token) := do
  let marked := fun tokens =>
    Token.beginsWith "#" tokens && Token.beginsWith "!" (Token.behindFirst tokens)
  return AttributeForm.tokensOf (← Reader.many marked (readAttribute inner ["#", "!"]))

/-- Reads a block that may begin with attributes of its own. -/
def readAttributedBlock (inner : Readers) : Reader (List Token) :=
  Reader.group .brace (Reader.inOrder [readInnerAttributes inner, inner.statements])

end SqlRecords.Source
