/-
This file holds what the readers of attributes, types, patterns, expressions and items share.

A reader takes tokens from the front of a list and gives back what it read in its regular form:
mostly the tokens as they stood there, but for instance lifetimes come before types, and the
number of a field is written in decimal. The regular form is again a list of tokens.

The readers are written inside one another, so none of them can be defined before the others.
Each is therefore a function of a collection of readers for what is written inside, and the
collections are stacked: every layer reads with the one below it, and the lowest one reads
nothing. Reading goes one layer down with every construct, so a stack that is higher than a
text has tokens reads all of it.
-/

import SqlRecords.Source.OperatorTree
import SqlRecords.Source.Token

namespace SqlRecords.Source

/-- A reader: from tokens, what was read at the front of them and the tokens behind it. -/
abbrev Reader (Result : Type) := StateT (List Token) Option Result

namespace Reader

/-! ### Single tokens -/

/-- Whether the tokens ahead pass a test. -/
def ahead (test : List Token → Bool) : Reader Bool := do
  return test (← get)

/-- Reads an operator. -/
def sign (operator : String) : Reader (List Token) := fun tokens =>
  (Token.after? operator tokens).map fun rest => (Token.before tokens rest, rest)

/-- Reads an operator, or nothing. -/
def optionalSign (operator : String) : Reader (List Token) := do
  if ← ahead (Token.beginsWith operator) then sign operator else return []

/-- Reads the next token if it passes a test. -/
def single (test : Token → Bool) : Reader (List Token)
  | token :: rest => if test token then some ([token], rest) else none
  | [] => none

/-- Reads a word. -/
def word (wanted : String) : Reader (List Token) :=
  single (· = .word wanted)

/-- Reads a word, or nothing. -/
def optionalWord (wanted : String) : Reader (List Token) := do
  if ← ahead (Token.beginsWord [wanted]) then word wanted else return []

/-- Reads any word. -/
def anyWord : Reader (List Token) := do
  if ← ahead Token.beginsAnyWord then single fun _ => true else failure

/-- Reads a word that can name something. -/
def name : Reader (List Token) := do
  if ← ahead Token.beginsName then anyWord else failure

/-- Reads a lifetime. -/
def lifetime : Reader (List Token) := do
  if ← ahead Token.beginsLifetime then single fun _ => true else failure

/-- Reads a lifetime, or nothing. -/
def optionalLifetime : Reader (List Token) := do
  if ← ahead Token.beginsLifetime then lifetime else return []

/-- Reads a literal. A minus in front of a number belongs to it. -/
def literal : Reader (List Token) := do
  if ← ahead Token.beginsLiteral then
    let minus ← optionalSign "-"
    return minus ++ (← single fun _ => true)
  else
    failure

/-! ### Sequences -/

/-- Reads one thing after the other. -/
def inOrder (readers : List (Reader (List Token))) : Reader (List Token) := do
  return (← readers.mapM id).flatten

/-- Reads something if the tokens ahead pass a test, and nothing otherwise. -/
def given (test : List Token → Bool) (reader : Reader (List Token)) : Reader (List Token) := do
  if ← ahead test then reader else return []

/-- Reads something and keeps it as it is written. -/
def asWritten {Result : Type} (reader : Reader Result) : Reader (List Token) := fun tokens =>
  (reader tokens).map fun read => (Token.before tokens read.2, read.2)

/-- Reads something that says of itself whether it is kept as it is written. -/
def mayBeAsWritten (reader : Reader (Bool × List Token)) : Reader (List Token) := fun tokens =>
  (reader tokens).map fun ((isAsWritten, read), rest) =>
    (if isAsWritten then Token.before tokens rest else read, rest)

/-- Reads a group in delimiters. -/
def group (delimiter : Delimiter) (inside : Reader (List Token)) : Reader (List Token) :=
  inOrder [single (· = .opening delimiter), inside, single (· = .closing delimiter)]

/-- Reads a group in any delimiters, whatever is in it. -/
def anyGroup : Reader (List Token) := fun tokens =>
  match tokens with
  | .opening _ :: inside =>
    (Token.skipOpen 1 inside).map fun rest => (Token.before tokens rest, rest)
  | _ => none

/-- Reads a group in given delimiters, whatever is in it. -/
def anyGroupOf (delimiter : Delimiter) : Reader (List Token) := do
  if ← ahead (Token.opens delimiter) then anyGroup else failure

/-- Reads items as long as the tokens ahead pass a test. The bound is on their number. -/
def whileAhead {Item : Type} (test : List Token → Bool) (item : Reader Item) :
    Nat → Reader (List Item)
  | 0 => failure
  | bound + 1 => do
    if ← ahead test then
      let first ← item
      return first :: (← whileAhead test item bound)
    else
      return []

/-- Reads items as long as the tokens ahead pass a test. -/
def many {Item : Type} (test : List Token → Bool) (item : Reader Item) : Reader (List Item) :=
  fun tokens => whileAhead test item (tokens.length + 1) tokens

/-- Reads items with a sign between them, each with the sign behind it. The items end where a
test says so, or where no sign follows. The bound is on their number. -/
def separatedWithin {Item : Type} (item : Reader Item) (mark : String)
    (ends : List Token → Bool) : Nat → Reader (List (Item × List Token))
  | 0 => failure
  | bound + 1 => do
    if ← ahead ends then
      return []
    else
      let first ← item
      if ← ahead (Token.beginsWith mark) then
        let between ← sign mark
        return (first, between) :: (← separatedWithin item mark ends bound)
      else
        return [(first, [])]

/-- Reads items with a sign between them, each with the sign behind it. -/
def separated {Item : Type} (item : Reader Item) (mark : String) (ends : List Token → Bool) :
    Reader (List (Item × List Token)) := fun tokens =>
  separatedWithin item mark ends (tokens.length + 1) tokens

/-- Items with the signs between them, one after the other. -/
def joined (items : List (List Token × List Token)) : List Token :=
  items.flatMap fun item => item.1 ++ item.2

/-- Reads items with commas between them up to the end of a group. -/
def commaSeparated (item : Reader (List Token)) : Reader (List Token) := do
  return joined (← separated item "," Token.atEnd)

/-- Items of which those that pass a test come first. A comma is set behind the last of these
where one is missing. -/
def arranged {Item : Type} (isEarly : Item → Bool) (text : Item → List Token)
    (items : List (Item × List Token)) : List Token :=
  let (early, late) := items.partition fun item => isEarly item.1
  let print := fun (items : List (Item × List Token)) =>
    joined (items.map fun item => (text item.1, item.2))
  let gap := match early.getLast? with
    | some (_, []) => if late.isEmpty then [] else [Token.sign ',' false]
    | _ => []
  print early ++ gap ++ print late

end Reader

/-! ### What readers give -/

/-- What an expression is for what surrounds it. -/
inductive PhraseKind where
  | plain
  /-- a range, which no operator can follow -/
  | range
  /-- an expression that is kept as it is written, and keeps no attributes -/
  | asWritten
  /-- an expression that ends in a block and stands as a statement by itself -/
  | block
  /-- a macro in braces, which stands as a statement by itself -/
  | macroInBraces
deriving DecidableEq, Repr

/-- An expression that was read. -/
structure Phrase where
  tree : OperatorTree
  tokens : List Token
  kind : PhraseKind := .plain
  /-- whether the operand that begins it keeps no attributes -/
  dropsAttributes : Bool := false

/-- A path that was read. -/
structure PathForm where
  /-- the tokens up to the last word -/
  words : List Token
  /-- the arguments behind the last word -/
  arguments : List Token
  /-- whether it begins with a type in angle brackets -/
  isQualified : Bool
  /-- whether it begins with a double colon -/
  isRooted : Bool
  /-- its words, each with the arguments behind it: for each of these, whether it is a type -/
  segments : List (String × Option (List Bool))

/-- The tokens of a path. -/
def PathForm.tokens (path : PathForm) : List Token :=
  path.words ++ path.arguments

/-- What a type is for what surrounds it. -/
inductive TypeShape where
  | path (path : PathForm)
  /-- a single bound that stands for a type, without parentheses around it -/
  | soleBound (bare : List Token)
  | other

/-- A type that was read. -/
structure TypeForm where
  tokens : List Token
  shape : TypeShape := .other

/-- What a bound of a type is. -/
inductive BoundKind where
  | lifetime
  | captures
  | path
deriving DecidableEq, Repr

/-- A bound of a type that was read. -/
structure BoundForm where
  kind : BoundKind
  tokens : List Token

/-- Which bounds can stand at a place. -/
structure BoundRules where
  /-- whether what is captured can be said -/
  captures : Bool
  /-- whether a bound can be marked as constant -/
  constants : Bool

/-- What a pattern is for what surrounds it. -/
inductive PatternShape where
  | other
  /-- a range that lacks a bound -/
  | openRange
  /-- a pattern that is kept as it is written, and keeps no attributes -/
  | asWritten
deriving DecidableEq, Repr

/-- A pattern that was read. -/
structure PatternForm where
  tokens : List Token
  shape : PatternShape := .other

/-- The readers for what is written inside a construct. A flag says whether a brace behind a name
begins the fields of a record; it does not where a block is expected. -/
structure Readers where
  /-- reads an expression -/
  expression (records : Bool) : Reader Phrase
  /-- reads an operand with the operators in front of it and behind it -/
  operand (records : Bool) : Reader Phrase
  /-- reads the operators, of a least strength, that follow an operand -/
  operators (records : Bool) (least : Strength) (left : Phrase) : Reader Phrase
  /-- reads an expression which, if it begins with a block, mostly ends with it -/
  bounded : Reader Phrase
  /-- reads a type; a plus behind it may belong to it or not -/
  type (plus : Bool) : Reader TypeForm
  /-- reads a bound of a type -/
  bound (rules : BoundRules) : Reader BoundForm
  /-- reads a pattern without alternatives -/
  pattern : Reader PatternForm
  /-- reads the statements of a block -/
  statements : Reader (List Token)
  /-- reads an item behind its attributes, and says whether it is kept as it is written -/
  item : Reader (Bool × List Token)
  /-- reads what is imported, as it is written; it may begin with a double colon or not -/
  imports (rooted : Bool) : Reader (List Token)

/-- The readers that read nothing. -/
def Readers.nothing : Readers where
  expression := fun _ => failure
  operand := fun _ => failure
  operators := fun _ _ _ => failure
  bounded := failure
  type := fun _ => failure
  bound := fun _ => failure
  pattern := failure
  statements := failure
  item := failure
  imports := fun _ => failure

namespace Readers

variable (inner : Readers)

/-- Reads an expression in which a brace behind a name begins the fields of a record. -/
def expressionTokens : Reader (List Token) := do
  return (← inner.expression true).tokens

/-- Reads a type, to which a plus behind it may belong. -/
def typeTokens : Reader (List Token) := do
  return (← inner.type true).tokens

/-- Reads a pattern without alternatives. -/
def patternTokens : Reader (List Token) := do
  return (← inner.pattern).tokens

/-- Reads a block. -/
def block : Reader (List Token) :=
  Reader.group .brace inner.statements

end Readers

/-! ### Visibility and names of things -/

/-- Reads the path of a module: words, and perhaps a double colon in front. -/
def readModulePath : Reader (List Token) := do
  let root ← Reader.optionalSign "::"
  let isSegment := fun tokens =>
    Token.beginsName tokens || Token.beginsWord ["super", "self", "Self", "crate"] tokens
  let segments ← Reader.separated Reader.anyWord "::" fun tokens => !isSegment tokens
  match segments.getLast? with
  | some (_, []) => return root ++ Reader.joined segments
  | _ => failure

/-- Reads the place in parentheses in which something public can be seen. -/
def readScope : Reader (List Token) := fun tokens =>
  match tokens with
  | .opening .parenthesis :: .word place :: .closing .parenthesis :: rest =>
    if ["crate", "self", "super"].contains place then some (Token.before tokens rest, rest)
    else some ([], tokens)
  | .opening .parenthesis :: .word "in" :: _ =>
    Reader.group .parenthesis (Reader.inOrder [Reader.word "in", readModulePath]) tokens
  | _ => some ([], tokens)

/-- Reads where something can be seen, which may say nothing. -/
def readVisibility : Reader (List Token) :=
  Reader.given (Token.beginsWord ["pub"]) (Reader.inOrder [Reader.word "pub", readScope])

end SqlRecords.Source
