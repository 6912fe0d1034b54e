/-
This file reads what types are bound by, and the parameters of what is generic.

A bound is a lifetime, a path, or says what a hidden type captures. Parameters stand in angle
brackets; what is said about them further on stands behind the word `where`. In the regular form
lifetimes come first, and brackets without parameters, a colon without bounds and the word
`where` without anything behind it are left out.
-/

import SqlRecords.Source.PathGrammar

namespace SqlRecords.Source

variable (inner : Readers)

/-! ### Parameters -/

/-- Something with a colon in front of it, unless there is nothing. -/
def behindColon (colon bounds : List Token) : List Token :=
  if bounds.isEmpty then [] else colon ++ bounds

/-- Reads what a lifetime is bound by. -/
def readLifetimeBounds : Reader (List Token) := do
  if ← Reader.ahead (Token.beginsWith ":") then
    let colon ← Reader.sign ":"
    let bounds ← Reader.separated Reader.lifetime "+" (Token.beginsWithAny [",", ">"])
    return behindColon colon (Reader.joined bounds)
  else
    return []

/-- Reads what a type is bound by. -/
def readTypeBounds : Reader (List Token) := do
  if ← Reader.ahead (Token.beginsWith ":") then
    let colon ← Reader.sign ":"
    return behindColon colon (← readBounds inner .usual (Token.beginsWithAny [",", ">", "="]))
  else
    return []

/-- Reads a parameter that is a constant. -/
def readConstantParameter : Reader (List Token) :=
  Reader.inOrder [Reader.word "const", Reader.name, Reader.sign ":", inner.typeTokens,
    Reader.given (Token.beginsWith "=") (Reader.inOrder [Reader.sign "=", readConstant inner])]

/-- Reads a parameter, and says whether it is a lifetime. -/
def readParameter : Reader (Bool × List Token) := do
  let attributes ← readAttributes inner
  let tokens ← get
  if Token.beginsLifetime tokens then
    return (true, attributes ++ (← Reader.inOrder [Reader.lifetime, readLifetimeBounds]))
  else if Token.beginsName tokens then
    let type ← Reader.inOrder [Reader.name, readTypeBounds inner,
      Reader.given (Token.beginsWith "=") (Reader.inOrder [Reader.sign "=", inner.typeTokens])]
    return (false, attributes ++ type)
  else
    return (false, attributes ++ (← readConstantParameter inner))

/-- Reads a parameter of something generic, which may also be left open. -/
def readGenericParameter : Reader (Bool × List Token) := do
  let attributes ← readAttributes inner
  if ← Reader.ahead (Token.beginsWord ["_"]) then
    return (false, attributes ++ (← Reader.anyWord))
  else
    let (isLifetime, read) ← readParameter inner
    return (isLifetime, attributes ++ read)

/-- Reads the parameters of something generic, if it has any. -/
def readGenerics : Reader (List Token) := do
  if ← Reader.ahead (Token.beginsWith "<") then
    let start ← Reader.sign "<"
    let parameters ← Reader.separated (readGenericParameter inner) "," (Token.beginsWith ">")
    let stop ← Reader.sign ">"
    return if parameters.isEmpty then []
      else start ++ Reader.arranged Prod.fst Prod.snd parameters ++ stop
  else
    return []

/-- Reads the parameters that are introduced in front of a type, a bound or a closure. -/
def readBinder : Reader (List Token) :=
  Reader.given (Token.beginsWord ["for"]) do
    let start ← Reader.inOrder [Reader.word "for", Reader.sign "<"]
    let parameters ← Reader.separated (readParameter inner) "," (Token.beginsWith ">")
    let stop ← Reader.sign ">"
    return start ++ parameters.flatMap (fun parameter => parameter.1.2 ++ parameter.2) ++ stop

/-- Whether an angle bracket in front of tokens begins parameters and not a path. -/
def beginsGenerics (tokens : List Token) : Bool :=
  let second := Token.behindFirst tokens
  let third := Token.behindFirst second
  Token.beginsWith "<" tokens &&
    (Token.beginsWithAny [">", "#"] second || Token.beginsWord ["const"] second ||
      (Token.beginsLifetime second || Token.beginsName second) &&
        (Token.beginsWithAny [">", ",", "="] third || Token.beginsSingleColon third))

/-! ### Conditions on parameters -/

/-- Whether tokens end the conditions on parameters, or the bounds in one of them. -/
def endsConditions (tokens : List Token) : Bool :=
  Token.atEnd tokens || Token.opens .brace tokens || Token.beginsWithAny [",", ";", "="] tokens ||
    Token.beginsSingleColon tokens

/-- Reads a condition on a lifetime. -/
def readLifetimeCondition : Reader (List Token) := do
  let start ← Reader.inOrder [Reader.lifetime, Reader.sign ":"]
  let ends := fun tokens => endsConditions tokens || Token.beginsWith ":" tokens
  return start ++ Reader.joined (← Reader.separated Reader.lifetime "+" ends)

/-- Reads a condition on a type. -/
def readTypeCondition : Reader (List Token) :=
  Reader.inOrder [readBinder inner, inner.typeTokens, Reader.sign ":",
    readBounds inner .usual endsConditions]

/-- Reads a condition on a parameter. -/
def readCondition : Reader (List Token) := do
  let tokens ← get
  if Token.beginsLifetime tokens && Token.beginsWith ":" (Token.behindFirst tokens) then
    readLifetimeCondition
  else
    readTypeCondition inner

/-- Reads conditions on parameters, if there are any. -/
def readConditions : Reader (List Token) :=
  Reader.given (Token.beginsWord ["where"]) do
    let start ← Reader.word "where"
    if ← Reader.ahead beginsGenerics then
      failure
    else
      let conditions ← Reader.separated (readCondition inner) "," endsConditions
      return if conditions.isEmpty then [] else start ++ Reader.joined conditions

/-! ### Bounds -/

/-- Whether tokens begin with something that can be captured. -/
def beginsCapture (tokens : List Token) : Bool :=
  Token.beginsLifetime tokens || Token.beginsName tokens || Token.beginsWord ["Self"] tokens

/-- Reads what a hidden type captures, with the word for it. -/
def readCaptures : Reader (List Token) := do
  let start ← Reader.inOrder [Reader.word "use", Reader.sign "<"]
  let captured ← Reader.separated (Reader.single fun _ => true) "," fun tokens =>
    !beginsCapture tokens
  let stop ← Reader.sign ">"
  return start ++ Reader.arranged Token.beginsLifetime id captured ++ stop

/-- Reads what a function gives, if it says so; a plus behind the type does not belong to it. -/
def readResult : Reader (List Token) := do
  if ← Reader.ahead (Token.beginsWith "->") then
    let arrow ← Reader.sign "->"
    return arrow ++ (← inner.type false).tokens
  else
    return []

/-- Reads a path that names a bound, with the arguments in parentheses of a function. The double
colon that may stand in front of these has no place in the regular form. -/
def readBoundPath : Reader (List Token) := do
  let path ← readFreePath inner true
  let tokens ← get
  let isMarked :=
    Token.beginsWith "::" tokens && Token.opens .parenthesis (Token.behindSecond tokens)
  if path.endsPlain && (isMarked || Token.opens .parenthesis tokens) then
    let _ ← Reader.optionalSign "::"
    let arguments ← Reader.group .parenthesis (Reader.commaSeparated inner.typeTokens)
    return path.words ++ arguments ++ (← readResult inner)
  else
    return path.tokens

/-- Reads the mark of a constant bound, in brackets or not. -/
def readConstantMark : Reader (List Token) := do
  if ← Reader.ahead (Token.opens .bracket) then Reader.group .bracket (Reader.word "const")
  else Reader.optionalWord "const"

/-- Reads a bound that is a path, and says whether it is marked as constant. A binder in front of
it and a question mark exclude one another. -/
def readMarkedBound (rules : BoundRules) : Reader (Bool × List Token) := do
  let binder ← readBinder inner
  let constant ← readConstantMark
  let question ← Reader.optionalSign "?"
  let path ← readBoundPath inner
  if !constant.isEmpty && !rules.constants || !binder.isEmpty && !question.isEmpty then
    failure
  else
    return (!constant.isEmpty, binder ++ constant ++ question ++ path)

/-- Reads a bound that is a path, perhaps in parentheses, and says whether it is kept as it is
written. One that is marked as constant is. -/
def readEnclosedBound (rules : BoundRules) : Reader (Bool × List Token) := do
  if ← Reader.ahead (Token.opens .parenthesis) then
    let opening ← Reader.single fun _ => true
    let (isConstant, read) ← readMarkedBound inner rules
    let closing ← Reader.single (· = .closing .parenthesis)
    return (isConstant, opening ++ read ++ closing)
  else
    readMarkedBound inner rules

/-- Reads a bound. -/
def readBound (rules : BoundRules) : Reader BoundForm := do
  let tokens ← get
  if Token.beginsLifetime tokens then
    return ⟨.lifetime, ← Reader.lifetime⟩
  else if Token.beginsWord ["use"] tokens then
    let read ← readCaptures
    if rules.captures then return ⟨.captures, read⟩ else failure
  else
    return ⟨.path, ← Reader.mayBeAsWritten (readEnclosedBound inner rules)⟩

end SqlRecords.Source
