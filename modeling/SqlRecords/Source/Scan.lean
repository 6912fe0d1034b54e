/-
This file reads the tokens of a text.

Between tokens there may be white space and comments, and comments in stars may stand in one
another. A comment that documents what follows counts as the attribute that it abbreviates; a
carriage return may stand in it only before a line break. Delimiters have to match. The mark of
the byte order may stand at the very beginning.
-/

import SqlRecords.Source.Literal
import SqlRecords.Source.Token
import SqlRecords.Text.Blank
import SqlRecords.Text.Quoted

namespace SqlRecords.Source

/-! ### White space and comments -/

/-- Whether a character stands between tokens and belongs to none. -/
def isGap (character : Char) : Bool :=
  Text.isBlank character || character = '\u200e' || character = '\u200f'

/-- The rest of a line, and the characters from its break on. A carriage return before the line
break belongs to the break. -/
def readLine : List Char → List Char × List Char
  | [] => ([], [])
  | '\n' :: rest => ([], '\n' :: rest)
  | '\r' :: '\n' :: rest => ([], '\n' :: rest)
  | character :: rest =>
    let (line, behind) := readLine rest
    (character :: line, behind)

/-- The characters behind a comment in stars, of which some are open. -/
def skipComment : Nat → List Char → Option (List Char)
  | 0, characters => some characters
  | _ + 1, [] => none
  | depth + 1, '/' :: '*' :: rest => skipComment (depth + 2) rest
  | depth + 1, '*' :: '/' :: rest => skipComment depth rest
  | depth + 1, _ :: rest => skipComment (depth + 1) rest

/-- The text of a comment in stars behind the stars it begins with, and the characters behind
it. -/
def readStars (characters : List Char) : Option (List Char × List Char) := do
  let behind ← skipComment 1 characters
  some (characters.take (characters.length - behind.length - 2), behind)

/-- Whether every carriage return stands before a line break. -/
def hasWholeBreaks : List Char → Bool
  | [] => true
  | '\r' :: '\n' :: rest => hasWholeBreaks rest
  | character :: rest => character ≠ '\r' && hasWholeBreaks rest

/-- How a character of a comment is written in the attribute that the comment abbreviates. A zero
before a digit that might be read as part of its code takes a code of fixed length. -/
def documentedCharacters : List Char → List Char
  | [] => []
  | '\x00' :: digit :: rest =>
    (if '0' ≤ digit ∧ digit ≤ '7' then ['\\', 'x', '0', '0'] else ['\\', '0']) ++
      documentedCharacters (digit :: rest)
  | character :: rest => Text.quotedCharacter character ++ documentedCharacters rest

/-- The attribute that a documenting comment abbreviates, if the comment is well formed. -/
def documentation? (isInner : Bool) (content : List Char) : Option (List Token) :=
  if hasWholeBreaks content then
    some ([.sign '#' false] ++ (if isInner then [.sign '!' false] else []) ++
      [.opening .bracket, .word "doc", .sign '=' false,
        .literal (String.ofList (['"'] ++ documentedCharacters content ++ ['"'])),
        .closing .bracket])
  else
    none

/-- A comment: what it stands for, and the characters behind it. -/
def readComment : List Char → Option (List Token × List Char)
  | '/' :: '/' :: '!' :: rest => do
    let (line, behind) := readLine rest
    some (← documentation? true line, behind)
  | '/' :: '/' :: '/' :: rest =>
    let (line, behind) := readLine rest
    if rest.head? = some '/' then some ([], behind)
    else (documentation? false line).map fun tokens => (tokens, behind)
  | '/' :: '/' :: rest => some ([], (readLine rest).2)
  | '/' :: '*' :: '*' :: '/' :: rest => some ([], rest)
  | '/' :: '*' :: '!' :: rest => do
    let (content, behind) ← readStars rest
    some (← documentation? true content, behind)
  | '/' :: '*' :: '*' :: rest =>
    if rest.head? = some '*' then
      (readStars ('*' :: rest)).map fun read => ([], read.2)
    else do
      let (content, behind) ← readStars rest
      some (← documentation? false content, behind)
  | '/' :: '*' :: rest => (readStars rest).map fun read => ([], read.2)
  | _ => none

/-- Whether characters begin a comment. -/
def beginsComment : List Char → Bool
  | '/' :: '/' :: _ | '/' :: '*' :: _ => true
  | _ => false

/-! ### Tokens -/

/-- The characters that are signs. -/
def signCharacters : List Char :=
  "~!@#$%^&*-=+|;:,<.>/?'".toList

/-- Whether characters begin with a sign, and not with a comment. -/
def beginsSign (characters : List Char) : Bool :=
  !beginsComment characters && characters.head?.any signCharacters.contains

/-- Reads a word without a mark. -/
def readPlainWord : List Char → Option (String × List Char)
  | [] => none
  | first :: rest =>
    if Text.startsWord first then
      let others := rest.takeWhile Text.continuesWord
      some (String.ofList (first :: others), rest.drop others.length)
    else
      none

/-- The words that stay what they are behind a mark, so that a mark is refused. -/
def fixedWords : List String :=
  ["_", "super", "self", "Self", "crate"]

/-- Reads a word; a mark in front of it makes a name of a word that is otherwise none. -/
def readWord : List Char → Option (String × List Char)
  | 'r' :: '#' :: rest => do
    let (text, behind) ← readPlainWord rest
    if fixedWords.contains text then none else some ("r#" ++ text, behind)
  | characters => readPlainWord characters

/-- What begins a literal, so that it does not begin a word when no literal can be read. -/
def literalMarks : List String :=
  ["r\"", "r#\"", "r##", "b\"", "b'", "br\"", "br#", "c\"", "cr\"", "cr#"]

/-- Reads a word where a literal could stand. -/
def readFreeWord (characters : List Char) : Option (String × List Char) :=
  if literalMarks.any fun mark => mark.toList.isPrefixOf characters then none
  else readWord characters

/-- Reads a lifetime behind its quote: a word that no quote ends, and no number sign either
unless the word has a mark. -/
def readLifetime (characters : List Char) : Option (Token × List Char) := do
  let (text, behind) ← readWord characters
  if behind.head? = some '\'' then none
  else if behind.head? = some '#' && !text.startsWith "r#" then none
  else some (.lifetime ("'" ++ text), behind)

/-- Reads a sign or a lifetime. -/
def readSign : List Char → Option (Token × List Char)
  | '\'' :: rest => readLifetime rest
  | character :: rest =>
    if beginsSign (character :: rest) then some (.sign character (beginsSign rest), rest) else none
  | [] => none

/-- Reads a token that is no delimiter. -/
def readLeaf (characters : List Char) : Option (Token × List Char) :=
  match skipLiteral characters with
  | some behind => some (.literal (String.ofList (characters.take
      (characters.length - behind.length))), behind)
  | none =>
    (readSign characters).or
      ((readFreeWord characters).map fun read => (.word read.1, read.2))

/-- The delimiter that a character opens. -/
def openedBy? : Char → Option Delimiter
  | '(' => some .parenthesis
  | '[' => some .bracket
  | '\x7b' => some .brace
  | _ => none

/-- The delimiter that a character closes. -/
def closedBy? : Char → Option Delimiter
  | ')' => some .parenthesis
  | ']' => some .bracket
  | '\x7d' => some .brace
  | _ => none

/-- A comment in parentheses that counts as a literal, the mark of a place where there is an
error already. -/
def errorMark : String := "(/*ERROR*/)"

/-- Reads tokens while some delimiters are open. The first argument bounds the number of
tokens. -/
def scanOpen : Nat → List Delimiter → List Char → Option (List Token)
  | 0, _, _ => none
  | bound + 1, pending, characters =>
    let ahead := characters.dropWhile isGap
    if beginsComment ahead then do
      let (tokens, behind) ← readComment ahead
      (scanOpen bound pending behind).map (tokens ++ ·)
    else if errorMark.toList.isPrefixOf ahead then
      (scanOpen bound pending (ahead.drop errorMark.length)).map (.literal errorMark :: ·)
    else
      match ahead with
      | [] => if pending.isEmpty then some [] else none
      | first :: rest =>
        match openedBy? first, closedBy? first, pending with
        | some delimiter, _, _ =>
          (scanOpen bound (delimiter :: pending) rest).map (.opening delimiter :: ·)
        | none, some delimiter, innermost :: outer =>
          if delimiter = innermost then
            (scanOpen bound outer rest).map (.closing delimiter :: ·)
          else
            none
        | none, some _, [] => none
        | none, none, _ => do
          let (token, behind) ← readLeaf (first :: rest)
          (scanOpen bound pending behind).map (token :: ·)

/-- The characters behind the mark of the byte order, or all of them if there is no such mark. -/
def dropOrderMark : List Char → List Char
  | '\ufeff' :: rest => rest
  | characters => characters

/-- The tokens of a text, if it has no others than tokens. -/
def scan (text : String) : Option (List Token) :=
  let characters := dropOrderMark text.toList
  scanOpen (characters.length + 1) [] characters

end SqlRecords.Source
