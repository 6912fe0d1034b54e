/-
This file reads patterns, as they stand in the parameters of closures and functions, in bindings
and in the arms of matches.

A pattern without alternatives is read by one reader, and alternatives with bars between them by
another. A range may have three points in it, which mean the same as two and an equals sign.
-/

import SqlRecords.Source.Literal
import SqlRecords.Source.TypeGrammar

namespace SqlRecords.Source

variable (inner : Readers)

/-! ### Alternatives -/

/-- Whether tokens begin with a bar between alternatives. -/
def beginsAlternative (tokens : List Token) : Bool :=
  Token.beginsWith "|" tokens && !Token.beginsWithAny ["||", "|="] tokens

/-- Reads alternatives behind the first one, each with the bar in front of it. -/
def readFurtherAlternatives : Reader (List Token) := do
  let others ← Reader.many beginsAlternative
    (Reader.inOrder [Reader.sign "|", inner.patternTokens])
  return others.flatten

/-- Reads a pattern with alternatives, which a bar may begin. -/
def readAlternatives : Reader PatternForm := do
  let bar ← Reader.optionalSign "|"
  let first ← inner.pattern
  let others ← readFurtherAlternatives inner
  if bar.isEmpty && others.isEmpty then return first
  else return ⟨bar ++ first.tokens ++ others, .other⟩

/-- Reads the tokens of a pattern with alternatives. -/
def readAlternativesTokens : Reader (List Token) := do
  return (← readAlternatives inner).tokens

/-! ### Ranges -/

/-- Reads a constant block. -/
def readConstantBlock : Reader (List Token) :=
  Reader.inOrder [Reader.word "const", readAttributedBlock inner]

/-- Whether a range has no bound here. -/
def lacksBound (tokens : List Token) : Bool :=
  Token.atEnd tokens || Token.beginsWithAny ["|", "=", ",", ";"] tokens ||
    Token.beginsSingleColon tokens || Token.beginsWord ["if"] tokens

/-- Reads a bound of a range, which is a literal, a path or a constant block. -/
def readRangeBound : Reader (List Token) := do
  let tokens ← get
  if Token.beginsLiteral tokens then Reader.literal
  else if beginsTypeName tokens || Token.beginsWithAny ["::", "<"] tokens then
    return (← readPath inner false).tokens
  else readConstantBlock inner

/-- Reads the upper bound of a range and says whether there is one. A range that includes it has
to have it. -/
def readUpperBound (isInclusive : Bool) : Reader (List Token) := do
  if ← Reader.ahead lacksBound then
    if isInclusive then failure else return []
  else
    readRangeBound inner

/-- Reads the points of a range, and says whether it includes its upper bound. -/
def readRangePoints : Reader (Bool × List Token) := do
  let tokens ← get
  if Token.beginsWith "..=" tokens then return (true, ← Reader.sign "..=")
  else if Token.beginsWith "..." tokens then
    let _ ← Reader.sign "..."
    return (true, [.sign '.' true, .sign '.' true, .sign '=' false])
  else
    return (false, ← Reader.sign "..")

/-- Reads the rest of a range behind its lower bound. -/
def readRangeRest (lower : List Token) : Reader PatternForm := do
  let (isInclusive, points) ← readRangePoints
  let upper ← readUpperBound inner isInclusive
  return ⟨lower ++ points ++ upper, if upper.isEmpty then .openRange else .other⟩

/-- Reads a range without a lower bound; if it has no upper bound either, it is a pattern for the
rest of something. -/
def readRangeStart : Reader PatternForm := do
  if ← Reader.ahead (Token.beginsWith "...") then
    failure
  else
    let (isInclusive, points) ← readRangePoints
    let upper ← readUpperBound inner isInclusive
    return ⟨points ++ upper, if upper.isEmpty then .other else .openRange⟩

/-- Reads a bound of a range, or the range that it begins. -/
def readBoundOrRange : Reader PatternForm := do
  let lower ← readRangeBound inner
  if ← Reader.ahead (Token.beginsWith "..") then readRangeRest inner lower
  else return ⟨lower, .other⟩

/-! ### Records and tuples -/

/-- Reads the number of a part of a tuple, and gives it in decimal. -/
def readPlace : Reader (List Token) := fun tokens =>
  match tokens with
  | .literal number :: rest =>
    (placeOf? number.toList).map fun place => ([.literal (toString place)], rest)
  | _ => none

/-- Reads the name of a part of a record with the words that say how it is bound. A part in a box
is kept as it is written. -/
def readBoundField : Reader (List Token) := do
  let words ← Reader.inOrder
    [Reader.optionalWord "box", Reader.optionalWord "ref", Reader.optionalWord "mut"]
  let tokens ← get
  let isPlain := words.isEmpty
  let name ← if Token.beginsName tokens || !isPlain then Reader.name else readPlace
  if isPlain && (!Token.beginsName tokens || (← Reader.ahead (Token.beginsWith ":"))) then
    return name ++ (← Reader.inOrder [Reader.sign ":", readAlternativesTokens inner])
  else
    return words ++ name

/-- Reads the parts in the pattern of a record. Two points end them. The bound is on their
number. -/
def readFieldPatterns : Nat → Reader (List Token)
  | 0 => failure
  | bound + 1 => do
    if ← Reader.ahead Token.atEnd then
      return []
    else
      let attributes ← readAttributes inner
      if ← Reader.ahead (Token.beginsWith "..") then
        return attributes ++ (← Reader.sign "..")
      else
        let field ← readBoundField inner
        if ← Reader.ahead Token.atEnd then
          return attributes ++ field
        else
          let comma ← Reader.sign ","
          return attributes ++ field ++ comma ++ (← readFieldPatterns bound)

/-- Reads the pattern of a record behind its path. -/
def readRecordPattern : Reader (List Token) :=
  Reader.group .brace fun tokens => readFieldPatterns inner (tokens.length + 1) tokens

/-- Reads patterns in parentheses. -/
def readTuplePattern : Reader (List Token) :=
  Reader.group .parenthesis (Reader.commaSeparated (readAlternativesTokens inner))

/-- Reads a part of the pattern of a slice, which cannot be a range that lacks a bound. -/
def readElementPattern : Reader (List Token) := do
  let pattern ← readAlternatives inner
  if pattern.shape = .openRange then failure else return pattern.tokens

/-- Reads the pattern of a slice. -/
def readSlicePattern : Reader (List Token) :=
  Reader.group .bracket (Reader.commaSeparated (readElementPattern inner))

/-! ### Patterns -/

/-- Reads a pattern that begins with a path. -/
def readPathPattern : Reader PatternForm := do
  let path ← readPath inner false
  let tokens ← get
  if marksMacro path tokens then return ⟨path.tokens ++ (← readMacro), .other⟩
  else if Token.opens .brace tokens then
    return ⟨path.tokens ++ (← readRecordPattern inner), .other⟩
  else if Token.opens .parenthesis tokens then
    return ⟨path.tokens ++ (← readTuplePattern inner), .other⟩
  else if Token.beginsWith ".." tokens then readRangeRest inner path.tokens
  else return ⟨path.tokens, .other⟩

/-- Reads a name with what it is bound to. -/
def readNamePattern : Reader (List Token) :=
  Reader.inOrder [Reader.optionalWord "ref", Reader.optionalWord "mut",
    Reader.name <|> Reader.word "self",
    Reader.given (Token.beginsWith "@") (Reader.inOrder [Reader.sign "@", inner.patternTokens])]

/-- Reads the pattern of a reference. -/
def readReferencePattern : Reader (List Token) :=
  Reader.inOrder [Reader.sign "&", Reader.optionalWord "mut", inner.patternTokens]

/-- Reads the pattern of something in a box, which is kept as it is written. -/
def readBoxPattern : Reader (List Token) :=
  Reader.asWritten (Reader.inOrder [Reader.word "box", inner.patternTokens])

/-- Whether tokens begin with a path, and not with a new name. -/
def beginsPathPattern (tokens : List Token) : Bool :=
  let second := Token.behindFirst tokens
  let continues := Token.beginsWithAny ["::", "!", ".."] second || Token.opens .brace second ||
    Token.opens .parenthesis second
  Token.beginsName tokens && continues ||
    Token.beginsWord ["self"] tokens && Token.beginsWith "::" second ||
    Token.beginsWithAny ["::", "<"] tokens || Token.beginsWord ["Self", "super", "crate"] tokens

/-- Reads a pattern without alternatives. -/
def readPattern : Reader PatternForm := do
  let tokens ← get
  if beginsPathPattern tokens then readPathPattern inner
  else if Token.beginsWord ["_"] tokens then return ⟨← Reader.anyWord, .other⟩
  else if Token.beginsWord ["box"] tokens then return ⟨← readBoxPattern inner, .asWritten⟩
  else if Token.beginsWith "-" tokens || Token.beginsLiteral tokens ||
      Token.beginsWord ["const"] tokens then
    readBoundOrRange inner
  else if Token.beginsWord ["ref", "mut", "self"] tokens || Token.beginsName tokens then
    return ⟨← readNamePattern inner, .other⟩
  else if Token.beginsWith "&" tokens then return ⟨← readReferencePattern inner, .other⟩
  else if Token.opens .parenthesis tokens then return ⟨← readTuplePattern inner, .other⟩
  else if Token.opens .bracket tokens then return ⟨← readSlicePattern inner, .other⟩
  else if Token.beginsWith ".." tokens then readRangeStart inner
  else failure

end SqlRecords.Source
