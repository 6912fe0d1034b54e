/-
This file reads types.

Where a plus may belong to a type, bounds with plus signs between them are a type as well; behind
a cast or a reference a plus belongs to something else. Of a type that was read it is kept
whether it is a path, since only paths can name members and optional contents.
-/

import SqlRecords.Source.BoundGrammar

namespace SqlRecords.Source

variable (inner : Readers)

/-! ### Bounds that stand for types -/

/-- The rules for bounds of a type that may stand for any that meets them. -/
def BoundRules.plain : BoundRules := ⟨false, false⟩

/-- The rules for bounds of a hidden type. -/
def BoundRules.hidden : BoundRules := ⟨true, true⟩

/-- Whether one more bound may begin here, behind a plus. -/
def beginsBound (rules : BoundRules) (tokens : List Token) : Bool :=
  Token.beginsAnyWord tokens || Token.beginsLifetime tokens || Token.opens .parenthesis tokens ||
    Token.beginsWithAny ["::", "?"] tokens || rules.constants && Token.opens .bracket tokens

/-- Reads bounds behind the first one; a plus may stand at their end. -/
def readFurtherBounds (plus : Bool) (rules : BoundRules) :
    Reader (List BoundForm × List Token) := do
  if ← Reader.ahead fun tokens => plus && Token.beginsWith "+" tokens then
    let mark ← Reader.sign "+"
    let bounds ← Reader.separated (inner.bound rules) "+" fun tokens => !beginsBound rules tokens
    return (bounds.map Prod.fst, mark ++ bounds.flatMap fun bound => bound.1.tokens ++ bound.2)
  else
    return ([], [])

/-- Reads the bounds that a type stands for. One of them has to be a path. -/
def readBoundsOfType (plus : Bool) (rules : BoundRules) : Reader (List Token) := do
  let first ← inner.bound rules
  let (others, further) ← readFurtherBounds inner plus rules
  if (first :: others).any fun bound => bound.kind == .path then
    return first.tokens ++ further
  else
    failure

/-- Reads a plus and a bound as often as a plus follows. -/
def readAddedBounds : Reader (List Token) := do
  let bounds ← Reader.many (Token.beginsWith "+") do
    let mark ← Reader.sign "+"
    return mark ++ (← inner.bound .plain).tokens
  return bounds.flatten

/-! ### Types in parentheses -/

/-- The tokens in parentheses. -/
def enclose (tokens : List Token) : List Token :=
  .opening .parenthesis :: tokens ++ [.closing .parenthesis]

/-- The first of several bounds, if a type in parentheses can be one. -/
def TypeForm.asBound? (type : TypeForm) : Option (List Token) :=
  match type.shape with
  | .path path => if path.isQualified then none else some (enclose path.tokens)
  | .soleBound bare => some (enclose bare)
  | .other => none

/-- Reads what follows a type in parentheses. -/
def readBehindEnclosed (plus : Bool) (type : TypeForm) : Reader TypeForm := do
  match type.asBound? with
  | some bound =>
    if ← Reader.ahead fun tokens => plus && Token.beginsWith "+" tokens then
      return ⟨bound ++ (← readAddedBounds inner), .other⟩
    else
      return ⟨enclose type.tokens, .other⟩
  | none => return ⟨enclose type.tokens, .other⟩

/-- Reads the types of a tuple behind the first one. -/
def readTupleRest : Reader (List Token) :=
  Reader.given (Token.beginsWith ",")
    (Reader.inOrder [Reader.sign ",", Reader.commaSeparated inner.typeTokens])

/-- Reads a type in parentheses, a tuple, or bounds of which the first is in parentheses. -/
def readEnclosedType (plus : Bool) : Reader TypeForm := do
  let opening ← Reader.single (· = .opening .parenthesis)
  let closing := Reader.single (· = .closing .parenthesis)
  let tokens ← get
  if Token.atEnd tokens then
    return ⟨opening ++ (← closing), .other⟩
  else if Token.beginsLifetime tokens then
    return ⟨opening ++ (← readBoundsOfType inner true .plain) ++ (← closing), .other⟩
  else if Token.beginsWith "?" tokens then
    let bare := (← inner.bound .plain).tokens
    let stop ← closing
    let added ← readAddedBounds inner
    return ⟨opening ++ bare ++ stop ++ added,
      if added.isEmpty then .soleBound bare else .other⟩
  else
    let type ← inner.type true
    let others ← readTupleRest inner
    let stop ← closing
    if others.isEmpty then readBehindEnclosed inner plus type
    else return ⟨opening ++ type.tokens ++ others ++ stop, .other⟩

/-! ### Types of functions -/

/-- Reads the word for the conventions of a call, and the text that names them. -/
def readConvention : Reader (List Token) :=
  Reader.inOrder [Reader.word "extern", Reader.given Token.beginsText Reader.literal]

/-- Whether tokens begin with the name of an argument; a colon has to follow. -/
def beginsArgumentName (isFirst : Bool) (tokens : List Token) : Bool :=
  (Token.beginsName tokens || Token.beginsWord ["_"] tokens ||
      isFirst && Token.beginsWord ["self"] tokens) &&
    Token.beginsSingleColon (Token.behindFirst tokens)

/-- Whether tokens begin with the words for an instance that may be changed. -/
def beginsChangeableSelf (tokens : List Token) : Bool :=
  Token.beginsWord ["mut"] tokens && Token.beginsWord ["self"] (Token.behindFirst tokens)

/-- Reads a type and the colon in front of it, if there is a colon. -/
def readColonType : Reader (List Token) :=
  Reader.given (Token.beginsWith ":") (Reader.inOrder [Reader.sign ":", inner.typeTokens])

/-- Reads an argument in the type of a function behind its attributes. One that speaks of an
instance that may be changed can only be the first, and is kept as it is written. -/
def readArgumentType (isFirst : Bool) : Reader (List Token) := do
  let tokens ← get
  let changeable := Reader.inOrder [Reader.word "mut", Reader.word "self"]
  if isFirst && beginsChangeableSelf tokens then
    Reader.asWritten (Reader.inOrder [changeable, Reader.given Token.beginsSingleColon
      (readColonType inner)])
  else
    let name ← Reader.given (beginsArgumentName isFirst)
      (Reader.inOrder [Reader.anyWord, Reader.sign ":"])
    let isSelf := Token.beginsWord ["self"] name
    if ← Reader.ahead fun tokens => isFirst && !isSelf && beginsChangeableSelf tokens then
      return name ++ (← changeable)
    else
      return name ++ (← inner.typeTokens)

/-- Whether tokens begin with the points for any further arguments, perhaps with a name. -/
def beginsFurtherArguments (tokens : List Token) : Bool :=
  let second := Token.behindFirst tokens
  Token.beginsWith "..." tokens ||
    (Token.beginsName tokens || Token.beginsWord ["_"] tokens) && Token.beginsWith ":" second &&
      Token.beginsWith "..." (Token.behindFirst second)

/-- Reads the points for any further arguments. -/
def readFurtherArguments : Reader (List Token) :=
  Reader.inOrder [
    Reader.given Token.beginsAnyWord (Reader.inOrder [Reader.anyWord, Reader.sign ":"]),
    Reader.sign "...", Reader.optionalSign ","]

/-- Reads arguments in the type of a function. The bound is on their number. -/
def readArgumentTypes (isFirst : Bool) : Nat → Reader (List Token)
  | 0 => failure
  | bound + 1 => do
    if ← Reader.ahead Token.atEnd then
      return []
    else
      let attributes ← readAttributes inner
      if ← Reader.ahead beginsFurtherArguments then
        return attributes ++ (← readFurtherArguments)
      else
        let argument ← readArgumentType inner isFirst
        if ← Reader.ahead (Token.beginsWith ",") then
          let comma ← Reader.sign ","
          return attributes ++ argument ++ comma ++ (← readArgumentTypes false bound)
        else
          return attributes ++ argument

/-- Reads the type of a function. -/
def readFunctionType : Reader (List Token) := do
  let arguments : Reader (List Token) := fun tokens =>
    readArgumentTypes inner true (tokens.length + 1) tokens
  Reader.inOrder [Reader.optionalWord "unsafe",
    Reader.given (Token.beginsWord ["extern"]) readConvention, Reader.word "fn",
    Reader.group .parenthesis arguments, readResult inner]

/-! ### Types that begin with a sign -/

/-- Reads an array or a slice. -/
def readArrayType : Reader (List Token) :=
  Reader.group .bracket (Reader.inOrder [inner.typeTokens,
    Reader.given (Token.beginsWith ";")
      (Reader.inOrder [Reader.sign ";", inner.expressionTokens])])

/-- Reads a type to which a plus behind it does not belong. -/
def readTightType : Reader (List Token) := do
  return (← inner.type false).tokens

/-- Reads the type of a raw pointer. -/
def readPointerType : Reader (List Token) :=
  Reader.inOrder [Reader.sign "*", Reader.word "const" <|> Reader.word "mut", readTightType inner]

/-- Reads the type of a reference. -/
def readReferenceType : Reader (List Token) :=
  Reader.inOrder [Reader.sign "&", Reader.optionalLifetime, Reader.optionalWord "mut",
    readTightType inner]

/-! ### Types that begin with a word -/

/-- Reads a type that is a path, a macro, or bounds of which the first is a path. A binder in
front of the path makes it a bound. -/
def readNamedType (plus : Bool) (binder : List Token) : Reader TypeForm := do
  let path ← readPath inner true
  if path.isQualified then
    return ⟨path.tokens, .path path⟩
  else if ← Reader.ahead (marksMacro path) then
    return ⟨path.tokens ++ (← readMacro), .other⟩
  else
    let (_, further) ← readFurtherBounds inner plus .plain
    let whole := binder ++ path.tokens ++ further
    if !further.isEmpty then return ⟨whole, .other⟩
    else if !binder.isEmpty then return ⟨whole, .soleBound whole⟩
    else return ⟨whole, .path path⟩

/-- Reads a type that stands for any that meets some bounds. A star in front of the bounds keeps
it as it is written. -/
def readObjectType (plus : Bool) : Reader (Bool × List Token) := do
  let word ← Reader.word "dyn"
  let star ← Reader.optionalSign "*"
  return (!star.isEmpty, word ++ star ++ (← readBoundsOfType inner plus .plain))

/-- Reads a hidden type that meets some bounds. -/
def readHiddenType (plus : Bool) : Reader (List Token) := do
  let word ← Reader.word "impl"
  return word ++ (← readBoundsOfType inner plus .hidden)

/-- Whether tokens begin the type of a function. -/
def beginsFunctionType (tokens : List Token) : Bool :=
  Token.beginsWord ["fn", "unsafe", "extern"] tokens

/-- Whether tokens begin with a word of a path that is a type. -/
def beginsTypeName (tokens : List Token) : Bool :=
  Token.beginsName tokens || Token.beginsWord ["super", "self", "Self", "crate"] tokens

/-- Reads a type behind a binder. -/
def readBoundType (plus : Bool) : Reader TypeForm := do
  let binder ← readBinder inner
  let tokens ← get
  if beginsFunctionType tokens then
    return ⟨binder ++ (← readFunctionType inner), .other⟩
  else if beginsTypeName tokens then
    readNamedType inner plus binder
  else
    failure

/-! ### Types -/

/-- Reads a type that is neither in parentheses nor a path. -/
def readOtherType (plus : Bool) : Reader (List Token) := do
  let tokens ← get
  if beginsFunctionType tokens then readFunctionType inner
  else if Token.beginsWord ["dyn"] tokens then Reader.mayBeAsWritten (readObjectType inner plus)
  else if Token.beginsWord ["impl"] tokens then readHiddenType inner plus
  else if Token.beginsWord ["_"] tokens then Reader.anyWord
  else if Token.opens .bracket tokens then readArrayType inner
  else if Token.beginsWith "*" tokens then readPointerType inner
  else if Token.beginsWith "&" tokens then readReferenceType inner
  else if Token.beginsWith "!" tokens then Reader.sign "!"
  else if Token.beginsLifetime tokens then readBoundsOfType inner true .plain
  else failure

/-- Reads a type. -/
def readType (plus : Bool) : Reader TypeForm := do
  let tokens ← get
  if Token.beginsWord ["for"] tokens then readBoundType inner plus
  else if Token.opens .parenthesis tokens then readEnclosedType inner plus
  else if beginsTypeName tokens || Token.beginsWithAny ["::", "<"] tokens then
    readNamedType inner plus []
  else
    return ⟨← readOtherType inner plus, .other⟩

end SqlRecords.Source
