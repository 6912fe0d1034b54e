/-
This file reads expressions as operator trees.

An operand is read with everything that binds it more tightly than an operator: calls, fields,
indexes and questions. Where two operators meet, the stronger one takes the operand between
them, and of two equally strong ones the left one, except that assignments group to the right.
Comparisons do not follow one another. A cast, a range and an assignment are operands as a whole.

Attributes in front of an operand belong to it with its operators and with what follows it more
tightly. An operand that is kept as it is written includes those that stand directly in front of
it, and loses those that were read before.
-/

import SqlRecords.Source.BlockGrammar

namespace SqlRecords.Source

variable (inner : Readers)

/-! ### Phrases -/

namespace Phrase

/-- An operand that consists of some tokens. -/
def ofTokens (tokens : List Token) : Phrase where
  tree := .operand tokens
  tokens := tokens

/-- An operand that is kept as it is written. -/
def ofWritten (tokens : List Token) : Phrase where
  tree := .operand tokens
  tokens := tokens
  kind := .asWritten
  dropsAttributes := true

/-- A phrase with attributes in front of its first operand, unless that keeps none. -/
def withAttributes (attributes : List Token) (phrase : Phrase) : Phrase :=
  if phrase.dropsAttributes then
    phrase
  else
    { phrase with
      tokens := attributes ++ phrase.tokens
      tree := match phrase.tree with
        | .operand tokens => .operand (attributes ++ tokens)
        | tree => tree }

end Phrase

/-! ### Operators behind an operand -/

/-- The operator that tokens begin with. -/
def binarySign? (tokens : List Token) : Option BinarySign :=
  BinarySign.all.find? fun sign => Token.beginsWith sign.text tokens

/-- The strength of what tokens begin with; what is no operator is the loosest. -/
def nextStrength (tokens : List Token) : Strength :=
  match binarySign? tokens with
  | some sign => sign.strength
  | none =>
    if Token.beginsWith "=" tokens && !Token.beginsWith "=>" tokens then .assignment
    else if Token.beginsWith ".." tokens then .range
    else if Token.beginsWord ["as"] tokens then .cast
    else .loose

/-- Takes the operators behind an operand that are stronger than the one before it. The bound is
on their number. -/
def extendOperand (records : Bool) (strength : Strength) : Nat → Phrase → Reader Phrase
  | 0, _ => failure
  | bound + 1, operand => do
    let tokens ← get
    let next := nextStrength tokens
    if strength.rank < next.rank ∨ (next = strength ∧ strength = .assignment) then
      let longer ← inner.operators records next operand
      if (← get).length = tokens.length then return longer
      else extendOperand records strength bound longer
    else
      return operand

/-- Reads the right side of an operator. -/
def readRightSide (records : Bool) (strength : Strength) : Reader Phrase := do
  let operand ← inner.operand records
  extendOperand inner records strength ((← get).length + 1) operand

/-- The operators behind which a range has no upper bound. -/
def rangeEnds : List String :=
  [",", ";", "?", "=", "+", "/", "%", "^", ">", "<=", "!=", "-=", "*=", "&=", "|=", "<<="]

/-- Whether a range has no upper bound here. -/
def endsRange (records : Bool) (tokens : List Token) : Bool :=
  Token.atEnd tokens || Token.beginsWithAny rangeEnds tokens || Token.beginsSinglePoint tokens ||
    Token.beginsWord ["as"] tokens || !records && Token.opens .brace tokens

/-- Reads the rest of a range behind its lower bound. -/
def readRange (records : Bool) (lower : List Token) : Reader Phrase := do
  let tokens ← get
  if Token.beginsWith "..." tokens then
    failure
  else
    let isInclusive := Token.beginsWith "..=" tokens
    let points ← Reader.sign (if isInclusive then "..=" else "..")
    if ← Reader.ahead fun tokens => !isInclusive && endsRange records tokens then
      return { Phrase.ofTokens (lower ++ points) with kind := .range }
    else
      let upper ← readRightSide inner records .range
      return { Phrase.ofTokens (lower ++ points ++ upper.tokens) with kind := .range }

/-- Whether what follows a cast would belong to its operand. -/
def bindsCast (tokens : List Token) : Bool :=
  Token.opens .parenthesis tokens || Token.opens .bracket tokens ||
    Token.beginsWith "?" tokens || Token.beginsSinglePoint tokens

/-- Reads a cast of an operand. -/
def readCast (operand : Phrase) : Reader Phrase := do
  let word ← Reader.word "as"
  let type ← inner.type false
  if ← Reader.ahead bindsCast then
    failure
  else
    return { Phrase.ofTokens (operand.tokens ++ word ++ type.tokens) with
      dropsAttributes := operand.dropsAttributes }

/-- Reads an assignment to what stands on its left side. -/
def readAssignment (records : Bool) (left : Phrase) : Reader Phrase := do
  let mark ← Reader.sign "="
  let right ← readRightSide inner records .assignment
  return { Phrase.ofTokens (left.tokens ++ mark ++ right.tokens) with
    dropsAttributes := left.dropsAttributes }

/-- Reads an operator and its right side. -/
def readBinary (records : Bool) (sign : BinarySign) (left : Phrase) : Reader Phrase := do
  if sign.strength = .comparison ∧ left.tree.isComparison then
    failure
  else
    let mark ← Reader.sign sign.text
    let right ← readRightSide inner records sign.strength
    return {
      tree := .binary sign left.tree right.tree
      tokens := left.tokens ++ mark ++ right.tokens
      dropsAttributes := left.dropsAttributes }

/-- Reads the operators, of a least strength, that follow an operand. No operator follows a
range. -/
def readOperators (records : Bool) (least : Strength) (left : Phrase) : Reader Phrase := do
  let tokens ← get
  let strength := nextStrength tokens
  if left.kind = .range ∨ strength.rank < least.rank then
    return left
  else
    match binarySign? tokens, strength with
    | some sign, _ => inner.operators records least (← readBinary inner records sign left)
    | none, .assignment => inner.operators records least (← readAssignment inner records left)
    | none, .range => readRange inner records left.tokens
    | none, .cast => inner.operators records least (← readCast inner left)
    | none, _ => return left

/-! ### What binds tighter than operators -/

/-- Reads the arguments of a call. -/
def readCallArguments : Reader (List Token) :=
  Reader.group .parenthesis (Reader.commaSeparated inner.expressionTokens)

/-- Reads a field or a call of a method by its name. -/
def readNamedAccess : Reader (List Token) := do
  let name ← Reader.name
  let arguments ← Reader.given (Token.beginsWith "::") (Prod.snd <$> readArguments inner)
  if ← Reader.ahead fun tokens => !arguments.isEmpty || Token.opens .parenthesis tokens then
    return name ++ arguments ++ (← readCallArguments inner)
  else
    return name

/-- Reads what stands behind a point: a field, a call of a method, or the word that waits. -/
def readAccess : Reader (List Token) := do
  let tokens ← get
  if Token.beginsWord ["await"] tokens then Reader.anyWord
  else if Token.beginsName tokens then readNamedAccess inner
  else readPlace

/-- The places that a number with points among its digits names, with the points. -/
def placesOf? (number : String) : Option (List Token) := do
  let places ← (number.splitOn ".").mapM fun part =>
    if part.isEmpty then some [] else
      (placeOf? part.toList).map fun place => [Token.literal (toString place)]
  return [Token.sign '.' false].intercalate places

/-- Reads the places that a number with points in it names; one more field follows a point at its
end. -/
def readPlaces : Reader (List Token) := fun tokens => do
  match tokens with
  | .literal number :: rest =>
    let places ← placesOf? number
    if number.endsWith "." then (readAccess inner rest).map fun (field, rest) =>
      (places ++ field, rest)
    else some (places, rest)
  | _ => none

/-- Whether tokens begin with a number that has a point or an exponent. -/
def beginsFraction : List Token → Bool
  | .literal number :: _ => isFraction number.toList && number.toList.head?.any Char.isDigit
  | _ => false

/-- Whether a call, a field, an index or a question is ahead. Fields and questions do not follow
a range. -/
def beginsTrailer (isRange : Bool) (tokens : List Token) : Bool :=
  Token.opens .parenthesis tokens || Token.opens .bracket tokens ||
    !isRange && (Token.beginsSinglePoint tokens || Token.beginsWith "?" tokens)

/-- Reads a call, a field, an index or a question. -/
def readTrailer : Reader (List Token) := do
  let tokens ← get
  if Token.opens .parenthesis tokens then readCallArguments inner
  else if Token.opens .bracket tokens then Reader.group .bracket inner.expressionTokens
  else if Token.beginsWith "?" tokens then Reader.sign "?"
  else
    let point ← Reader.sign "."
    if ← Reader.ahead beginsFraction then return point ++ (← readPlaces inner)
    else return point ++ (← readAccess inner)

/-- Reads calls, fields, indexes and questions behind a phrase. -/
def readTrailers (phrase : Phrase) : Reader Phrase := do
  if ← Reader.ahead (beginsTrailer (phrase.kind = .range)) then
    let first ← readTrailer inner
    let others ← Reader.many (beginsTrailer false) (readTrailer inner)
    return .ofTokens (phrase.tokens ++ first ++ others.flatten)
  else
    return phrase

/-! ### Paths, groups and closures -/

/-- Reads a field of a record. -/
def readRecordField : Reader (List Token) := do
  let attributes ← readAttributes inner
  let tokens ← get
  let isNamed := Token.beginsName tokens
  let name ← if isNamed then Reader.name else readPlace
  if ← Reader.ahead fun tokens => !isNamed || Token.beginsWith ":" tokens then
    return attributes ++ name ++ (← Reader.inOrder [Reader.sign ":", inner.expressionTokens])
  else
    return attributes ++ name

/-- Reads the two points at the end of a record and perhaps an expression for its other
fields. -/
def readRecordRest : Reader (List Token) :=
  Reader.inOrder [Reader.sign "..",
    Reader.given (fun tokens => !Token.atEnd tokens) inner.expressionTokens]

/-- Reads the fields of a record. -/
def readRecordFields : Reader (List Token) := do
  let ends := fun tokens => Token.atEnd tokens || Token.beginsWith ".." tokens
  let fields ← Reader.separated (readRecordField inner) "," ends
  let isOpen := fields.getLast?.all fun field => !field.2.isEmpty
  let rest ← Reader.given (fun tokens => isOpen && Token.beginsWith ".." tokens)
    (readRecordRest inner)
  return Reader.joined fields ++ rest

/-- Reads an operand that begins with a path: a macro with its group, a record with its fields,
or the path itself. -/
def readPathOperand (records : Bool) : Reader Phrase := do
  let path ← readPath inner false
  let tokens ← get
  if marksMacro path tokens then
    let isBlock := Token.opens .brace (Token.behindFirst tokens)
    return { Phrase.ofTokens (path.tokens ++ (← readMacro)) with
      kind := if isBlock then .macroInBraces else .plain }
  else if records && Token.opens .brace tokens then
    return .ofTokens (path.tokens ++ (← Reader.group .brace (readRecordFields inner)))
  else if path.isWord "None" then
    return { tree := .absent, tokens := path.tokens }
  else
    return .ofTokens path.tokens

/-- Reads what is in parentheses: an expression, or the parts of a tuple. -/
def readParenthesized : Reader Phrase := do
  let opening ← Reader.single (· = .opening .parenthesis)
  let closing := Reader.single (· = .closing .parenthesis)
  if ← Reader.ahead Token.atEnd then
    return .ofTokens (opening ++ (← closing))
  else
    let first ← inner.expression true
    let others ← Reader.given (Token.beginsWith ",")
      (Reader.inOrder [Reader.sign ",", Reader.commaSeparated inner.expressionTokens])
    let tokens := opening ++ first.tokens ++ others ++ (← closing)
    return if others.isEmpty then { tree := .enclosed first.tree, tokens := tokens }
      else .ofTokens tokens

/-- Reads the elements of an array, or one element and how often it is repeated. -/
def readElements : Reader (List Token) := do
  let first ← inner.expressionTokens
  if ← Reader.ahead (Token.beginsWith ";") then
    return first ++ (← Reader.inOrder [Reader.sign ";", inner.expressionTokens])
  else
    return first ++ (← Reader.given (Token.beginsWith ",")
      (Reader.inOrder [Reader.sign ",", Reader.commaSeparated inner.expressionTokens]))

/-- Reads an array. -/
def readArray : Reader (List Token) :=
  Reader.group .bracket (Reader.given (fun tokens => !Token.atEnd tokens) (readElements inner))

/-- Reads a parameter of a closure. A pattern that is kept as it is written keeps no attributes,
unless it has a type. -/
def readClosureParameter : Reader (List Token) := do
  let attributes ← readAttributes inner
  let pattern ← inner.pattern
  let type ← readColonType inner
  return if type.isEmpty && pattern.shape = .asWritten then pattern.tokens
    else attributes ++ pattern.tokens ++ type

/-- Reads what a function gives, if it says so; a plus behind the type belongs to it. -/
def readOpenResult : Reader (List Token) :=
  Reader.given (Token.beginsWith "->") (Reader.inOrder [Reader.sign "->", inner.typeTokens])

/-- Reads a closure. With a type for its result it has a block for its body. -/
def readClosure (records : Bool) : Reader (List Token) := do
  let front ← Reader.inOrder (readBinder inner ::
    ["const", "static", "async", "move"].map Reader.optionalWord ++ [Reader.sign "|"])
  let parameters ← Reader.separated (readClosureParameter inner) "," (Token.beginsWith "|")
  let stop ← Reader.sign "|"
  let result ← readOpenResult inner
  let body ← if result.isEmpty then do
      pure (← inner.expression records).tokens
    else inner.block
  return front ++ Reader.joined parameters ++ stop ++ result ++ body

/-! ### Jumps and conditions -/

/-- Whether an expression may begin here, behind a word that may stand alone. -/
def beginsExpression (tokens : List Token) : Bool :=
  let begins := fun operator others =>
    Token.beginsWith operator tokens && !Token.beginsWithAny others tokens
  Token.beginsAnyWord tokens && !Token.beginsWord ["as"] tokens || beginsGroup tokens ||
    Token.beginsLiteral tokens || Token.beginsLifetime tokens || begins "!" ["!="] ||
    begins "-" ["-=", "->"] || begins "*" ["*="] || begins "|" ["|="] || begins "&" ["&="] ||
    begins ".." [] || begins "<" ["<=", "<<="] || begins "::" [] || begins "#" []

/-- Reads a word that leaves a function, and perhaps a value. -/
def readReturn : Reader (List Token) :=
  Reader.inOrder [Reader.anyWord, Reader.given beginsExpression inner.expressionTokens]

/-- Reads the word that leaves a loop, perhaps with a label and a value. A loop with a label
cannot be the value unless it is in parentheses. -/
def readBreak (records : Bool) : Reader (List Token) := do
  let front ← Reader.inOrder [Reader.word "break", Reader.optionalLifetime]
  if ← Reader.ahead fun tokens => front.length = 2 && Token.beginsWith ":" tokens then
    failure
  else
    let hasValue := fun tokens =>
      beginsExpression tokens && (records || !Token.opens .brace tokens)
    return front ++ (← Reader.given hasValue inner.expressionTokens)

/-- Reads a binding that is a condition. -/
def readLetCondition (records : Bool) : Reader (List Token) := do
  let front ← Reader.inOrder
    [Reader.word "let", readAlternativesTokens inner, Reader.sign "="]
  let operand ← inner.operand records
  return front ++ (← inner.operators records .comparison operand).tokens

/-! ### Operands -/

/-- Whether tokens begin a block that runs later. -/
def beginsDeferredBlock (tokens : List Token) : Bool :=
  let second := Token.behindFirst tokens
  Token.beginsWord ["async"] tokens && (Token.opens .brace second ||
    Token.beginsWord ["move"] second && Token.opens .brace (Token.behindFirst second))

/-- Whether tokens begin a closure. -/
def beginsClosure (tokens : List Token) : Bool :=
  let second := Token.behindFirst tokens
  Token.beginsWith "|" tokens || Token.beginsWord ["move", "static"] tokens ||
    beginsClosureBinder tokens ||
    Token.beginsWord ["const"] tokens && !Token.opens .brace second ||
    Token.beginsWord ["async"] tokens &&
      (Token.beginsWith "|" second || Token.beginsWord ["move"] second)

/-- Whether tokens begin with a path. -/
def beginsPath (tokens : List Token) : Bool :=
  beginsTypeName tokens || Token.beginsWithAny ["::", "<"] tokens ||
    Token.beginsWord ["try"] tokens && Token.beginsWithAny ["!", "::"] (Token.behindFirst tokens)

/-- Whether tokens begin with something built in. -/
def beginsBuiltin (tokens : List Token) : Bool :=
  Token.beginsWord ["builtin"] tokens && Token.beginsWith "#" (Token.behindFirst tokens)

/-- Reads something built in, with its arguments. -/
def readBuiltin : Reader (List Token) :=
  Reader.inOrder [Reader.word "builtin", Reader.sign "#", Reader.name,
    Reader.anyGroupOf .parenthesis]

/-- Reads an operand without operators and without what binds tighter than they do. -/
def readAtom (records : Bool) : Reader Phrase := do
  let tokens ← get
  if Token.beginsLiteral tokens then return .ofTokens (← Reader.literal)
  else if beginsDeferredBlock tokens then
    return .ofTokens (← Reader.inOrder
      [Reader.word "async", Reader.optionalWord "move", inner.block])
  else if beginsClosure tokens then return .ofTokens (← readClosure inner records)
  else if beginsBuiltin tokens then return .ofWritten (← readBuiltin)
  else if beginsPath tokens then readPathOperand inner records
  else if Token.opens .parenthesis tokens then readParenthesized inner
  else if Token.beginsWord ["break"] tokens then return .ofTokens (← readBreak inner records)
  else if Token.beginsWord ["continue"] tokens then
    return .ofTokens (← Reader.inOrder [Reader.anyWord, Reader.optionalLifetime])
  else if Token.beginsWord ["return", "yield"] tokens then return .ofTokens (← readReturn inner)
  else if Token.beginsWord ["become"] tokens then
    return .ofWritten (← Reader.asWritten
      (Reader.inOrder [Reader.word "become", inner.expressionTokens]))
  else if Token.opens .bracket tokens then return .ofTokens (← readArray inner)
  else if Token.beginsWord ["let"] tokens then
    return .ofTokens (← readLetCondition inner records)
  else if beginsBlockLike tokens then
    return { Phrase.ofTokens (← readBlockLike inner) with kind := .block }
  else if Token.beginsWith ".." tokens then readRange inner records []
  else if Token.beginsWord ["_"] tokens then return .ofTokens (← Reader.anyWord)
  else failure

/-- Whether tokens begin with the words for a raw reference. -/
def beginsRawReference (tokens : List Token) : Bool :=
  Token.beginsWord ["raw"] tokens &&
    Token.beginsWord ["mut", "const"] (Token.behindFirst tokens)

/-- Reads the sign of a reference and the words that say what kind it is of. -/
def readReferenceSign : Reader (List Token) := do
  let sign ← Reader.sign "&"
  if ← Reader.ahead beginsRawReference then
    return sign ++ (← Reader.inOrder [Reader.anyWord, Reader.anyWord])
  else
    return sign ++ (← Reader.optionalWord "mut")

/-- The operator in front of an operand. -/
def unarySign? : List Token → Option UnarySign
  | .sign '!' _ :: _ => some .not
  | .sign '-' _ :: _ => some .negate
  | .sign '*' _ :: _ => some .follow
  | _ => none

/-- Reads an operand with what follows it; attributes were read in front of it. What is kept as it
is written is kept from the attributes on. No attributes stand in front of two points. -/
def readTightOperand (records : Bool) (start attributes : List Token) : Reader Phrase := do
  let atom ← readAtom inner records
  let phrase ← readTrailers inner atom
  if phrase.kind = .asWritten then
    return .ofWritten (Token.before start (← get))
  else if phrase.kind = .range && !attributes.isEmpty then
    failure
  else
    return phrase.withAttributes attributes

/-- Reads an operand with the operators in front of it and what follows it. -/
def readOperand (records : Bool) : Reader Phrase := do
  let start ← get
  let attributes ← readAttributes inner
  let tokens ← get
  match unarySign? tokens with
  | some sign =>
    let mark ← Reader.sign sign.text
    let operand ← inner.operand records
    return {
      tree := .unary sign operand.tree
      tokens := attributes ++ mark ++ operand.tokens }
  | none =>
    if Token.beginsWith "&" tokens then
      let mark ← readReferenceSign
      let operand ← inner.operand records
      return .ofTokens (attributes ++ mark ++ operand.tokens)
    else
      readTightOperand inner records start attributes

/-! ### Expressions -/

/-- Reads an expression. -/
def readExpression (records : Bool) : Reader Phrase := do
  let operand ← readOperand inner records
  inner.operators records .loose operand

/-- Reads an expression which, if it begins with a block, ends with it, unless a point or a
question follows. -/
def readBoundedExpression : Reader Phrase := do
  let attributes ← readAttributes inner
  if ← Reader.ahead beginsBlockLike then
    let block := { Phrase.ofTokens (← readBlockLike inner) with kind := .block }
    if ← Reader.ahead fun tokens =>
        Token.beginsSinglePoint tokens || Token.beginsWith "?" tokens then
      let operand ← readTrailers inner block
      inner.operators true .loose (operand.withAttributes attributes)
    else
      return block.withAttributes attributes
  else
    let operand ← inner.operand true
    inner.operators true .loose (operand.withAttributes attributes)

end SqlRecords.Source
