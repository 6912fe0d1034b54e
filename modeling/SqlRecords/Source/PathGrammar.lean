/-
This file reads paths and the arguments in angle brackets behind their words.

In a type the arguments follow a word at once; in an expression, where an angle bracket compares,
a double colon stands in between. An argument is a lifetime, a type, a constant, or says what a
member of the type is or is bound by. In the regular form lifetimes come first.
-/

import SqlRecords.Source.AttributeGrammar

namespace SqlRecords.Source

variable (inner : Readers)

/-! ### Paths -/

namespace PathForm

/-- Whether a path has words only. -/
def isPlain (path : PathForm) : Bool :=
  !path.isQualified && path.segments.all fun segment => segment.2.isNone

/-- The word of a path that has only one, and nothing in front of it. -/
def soleSegment? (path : PathForm) : Option (String × Option (List Bool)) :=
  match path.segments with
  | [segment] => if path.isQualified || path.isRooted then none else some segment
  | _ => none

/-- Whether a path is a single word. -/
def isWord (path : PathForm) (wanted : String) : Bool :=
  path.soleSegment? == some (wanted, none)

/-- Whether the last word of a path has no arguments. -/
def endsPlain (path : PathForm) : Bool :=
  path.segments.getLast?.all fun segment => segment.2.all List.isEmpty

/-- Whether a path names the type of optional contents: its last word is `Option`, with exactly
one type behind it. A path that begins with a type in angle brackets names a member of that type
instead. -/
def isOptional (path : PathForm) : Bool :=
  !path.isQualified && path.segments.getLast? == some ("Option", some [true])

end PathForm

/-! ### Arguments -/

/-- What an argument in angle brackets is. -/
inductive ArgumentKind where
  | lifetime
  | type
  | other
deriving DecidableEq, Repr

/-- An argument in angle brackets. -/
structure ArgumentForm where
  kind : ArgumentKind
  tokens : List Token

/-- Reads a constant where a type could stand: a literal, a name or a block. -/
def readConstant : Reader (List Token) := do
  let tokens ← get
  if Token.beginsLiteral tokens then Reader.literal
  else if Token.beginsName tokens then Reader.name
  else readAttributedBlock inner

/-- Reads bounds with plus signs between them up to where a test says that they end, or where
no sign follows. -/
def readBounds (rules : BoundRules) (ends : List Token → Bool) : Reader (List Token) := do
  let bounds ← Reader.separated (inner.bound rules) "+" ends
  return bounds.flatMap fun bound => bound.1.tokens ++ bound.2

/-- The rules for bounds that are not those of a hidden type. -/
def BoundRules.usual : BoundRules := ⟨false, true⟩

/-- Reads what stands behind the name of a member: what it is, or what it is bound by. -/
def readMember (name : List Token) : Reader ArgumentForm := do
  let tokens ← get
  if Token.beginsWith "=" tokens then
    let equals ← Reader.sign "="
    let isConstant := fun tokens => Token.beginsLiteral tokens || Token.opens .brace tokens
    let value ← if ← Reader.ahead isConstant then readConstant inner else inner.typeTokens
    return ⟨.other, name ++ equals ++ value⟩
  else if Token.beginsWith ":" tokens then
    let colon ← Reader.sign ":"
    let bounds ← readBounds inner .usual (Token.beginsWithAny [",", ">"])
    return ⟨.other, name ++ colon ++ bounds⟩
  else
    return ⟨.type, name⟩

/-- Reads an argument in angle brackets. -/
def readArgument : Reader ArgumentForm := do
  let tokens ← get
  if Token.beginsLifetime tokens && !Token.beginsWith "+" (Token.behindFirst tokens) then
    return ⟨.lifetime, ← Reader.lifetime⟩
  else if Token.beginsLiteral tokens || Token.opens .brace tokens then
    return ⟨.other, ← readConstant inner⟩
  else
    let type ← inner.type true
    match type.shape with
    | .path path =>
      if path.soleSegment?.isSome then readMember inner type.tokens
      else return ⟨.type, type.tokens⟩
    | _ => return ⟨.type, type.tokens⟩

/-- Reads arguments in angle brackets; a double colon may stand in front. Says for each whether
it is a type. -/
def readArguments : Reader (List Bool × List Token) := do
  let start ← Reader.inOrder [Reader.optionalSign "::", Reader.sign "<"]
  let arguments ← Reader.separated (readArgument inner) "," (Token.beginsWith ">")
  let stop ← Reader.sign ">"
  let isLifetime := fun (argument : ArgumentForm) => argument.kind == .lifetime
  return (arguments.map fun argument => argument.1.kind == .type,
    start ++ Reader.arranged isLifetime ArgumentForm.tokens arguments ++ stop)

/-! ### Words of paths -/

/-- A word of a path with its arguments. -/
structure SegmentForm where
  word : Token
  /-- for each argument, whether it is a type -/
  areTypes : Option (List Bool)
  arguments : List Token

/-- The tokens of a word of a path. -/
def SegmentForm.tokens (segment : SegmentForm) : List Token :=
  segment.word :: segment.arguments

/-- Whether arguments in angle brackets follow a word of a path. -/
def beginsArguments (inType : Bool) (tokens : List Token) : Bool :=
  (inType && Token.beginsWith "<" tokens && !Token.beginsWith "<=" tokens) ||
    (Token.beginsWith "::" tokens && Token.beginsWith "<" (Token.behindSecond tokens))

/-- The words of paths behind which there are no arguments. -/
def bareWords : List String := ["super", "self", "crate", "try"]

/-- Reads a word of a path with its arguments. -/
def readSegment (inType : Bool) : Reader SegmentForm := do
  match ← Reader.anyWord with
  | [.word text] =>
    if bareWords.contains text then
      return ⟨.word text, none, []⟩
    else if Token.isName text || text = "Self" then
      if ← Reader.ahead (beginsArguments inType) then
        let (areTypes, arguments) ← readArguments inner
        return ⟨.word text, some areTypes, arguments⟩
      else
        return ⟨.word text, none, []⟩
    else
      failure
  | _ => failure

/-- Reads words of a path behind its first one, each with the double colon in front of it, as
long as a test says that the path goes on. -/
def readSegments (inType : Bool) (continues : List Token → Bool) :
    Reader (List (List Token × SegmentForm)) :=
  Reader.many continues do
    let mark ← Reader.sign "::"
    return (mark, ← readSegment inner inType)

/-- The path that begins with some tokens and has these words behind it, each with the double
colon in front of it. -/
def PathForm.ofSegments (isQualified isRooted : Bool) (front : List Token)
    (segments : List (List Token × SegmentForm)) : PathForm where
  words := front ++ segments.dropLast.flatMap (fun segment => segment.1 ++ segment.2.tokens) ++
    segments.getLast?.toList.flatMap fun segment => segment.1 ++ [segment.2.word]
  arguments := segments.getLast?.toList.flatMap fun segment => segment.2.arguments
  isQualified := isQualified
  isRooted := isRooted
  segments := segments.map fun segment => (segment.2.word.text, segment.2.areTypes)

/-- Whether a path goes on. A group in parentheses behind a double colon is no part of it. -/
def continuesPath (tokens : List Token) : Bool :=
  Token.beginsWith "::" tokens && !Token.opens .parenthesis (Token.behindSecond tokens)

/-- Reads a path that does not begin with a type in angle brackets. -/
def readFreePath (inType : Bool) : Reader PathForm := do
  let root ← Reader.optionalSign "::"
  let first ← readSegment inner inType
  let others ← readSegments inner inType continuesPath
  return .ofSegments false (!root.isEmpty) root (([], first) :: others)

/-- Reads a path that begins with a type in angle brackets. -/
def readQualifiedPath (inType : Bool) : Reader PathForm := do
  let type ← Reader.inOrder [Reader.sign "<", inner.typeTokens]
  let mark ← Reader.optionalWord "as"
  let named ← if mark.isEmpty then pure [] else do
    pure (← readFreePath inner true).tokens
  let stop ← Reader.inOrder [Reader.sign ">", Reader.sign "::"]
  let first ← readSegment inner inType
  let others ← readSegments inner inType (Token.beginsWith "::")
  return .ofSegments true false (type ++ mark ++ named ++ stop) (([], first) :: others)

/-- Reads a path. -/
def readPath (inType : Bool) : Reader PathForm := do
  if ← Reader.ahead (Token.beginsWith "<") then readQualifiedPath inner inType
  else readFreePath inner inType

/-! ### Macros -/

/-- Whether the mark of a macro follows a path. -/
def marksMacro (path : PathForm) (tokens : List Token) : Bool :=
  path.isPlain && Token.beginsBang tokens

/-- Reads what stands behind the path of a macro. -/
def readMacro : Reader (List Token) :=
  Reader.inOrder [Reader.sign "!", Reader.anyGroup]

end SqlRecords.Source
