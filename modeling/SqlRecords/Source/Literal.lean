/-
This file reads the literals of declarations and predicates: texts, characters and numbers.

A text stands in double quotes and has escapes behind backslashes, or it is raw: behind a mark
and any number of number signs, where every character stands for itself up to a quote with as
many number signs. A line break behind a backslash is left out together with the blanks after
it, and a line break of two characters counts as one, except in a raw text. Some texts are of
bytes, and then have plain characters only, and some end in a zero, and then have none inside. A
word right behind a literal belongs to it and changes nothing about what it says.
-/

import SqlRecords.Text.Digits
import SqlRecords.Text.Word

namespace SqlRecords.Source

/-! ### Escapes -/

/-- What a text consists of. -/
inductive TextKind where
  | characters
  | bytes
  /-- characters, among which a zero has no place because one ends the text -/
  | terminated
deriving DecidableEq, Repr

/-- Whether a character can stand for itself in a text. -/
def TextKind.admits (kind : TextKind) (character : Char) : Bool :=
  match kind with
  | characters => true
  | bytes => character.toNat < 128
  | terminated => character ≠ '\x00'

/-- Whether a text can have a character by its code. -/
def TextKind.admitsCode (kind : TextKind) (code : Nat) : Bool :=
  kind ≠ terminated || code ≠ 0

/-- What the next character of a text is a part of. -/
inductive TextState where
  | plain
  /-- behind a carriage return -/
  | carriageReturn
  /-- behind a backslash -/
  | escape
  /-- the first digit of a code in two hex digits -/
  | firstDigit
  /-- the second digit, behind the first one -/
  | secondDigit (first : Nat)
  /-- the brace in front of a code -/
  | codeBrace
  /-- a code in braces, of which some digits are read -/
  | code (value count : Nat)
  /-- the blanks behind a line break that is left out -/
  | continuation
  /-- behind a carriage return among those blanks -/
  | continuedReturn
deriving DecidableEq, Repr

/-- What a single character behind a backslash stands for. -/
def simpleEscape? : Char → Option Char
  | 'n' => some '\n'
  | 'r' => some '\r'
  | 't' => some '\t'
  | '\\' => some '\\'
  | '0' => some '\x00'
  | '\'' => some '\''
  | '"' => some '"'
  | _ => none

/-- The character with a code, if there is one. -/
def characterOf? (code : Nat) : Option Char :=
  if code.isValidChar then some (Char.ofNat code) else none

/-- The state behind a backslash and a character, with the character they stand for, if they
stand for one by themselves. -/
def afterEscape (kind : TextKind) (character : Char) : Option (TextState × List Char) :=
  match simpleEscape? character with
  | some meant => if kind.admitsCode meant.toNat then some (.plain, [meant]) else none
  | none =>
    if character = 'x' then some (.firstDigit, [])
    else if character = 'u' ∧ kind ≠ .bytes then some (.codeBrace, [])
    else if character = '\n' then some (.continuation, [])
    else if character = '\r' then some (.continuedReturn, [])
    else none

/-- One step in reading a text in double quotes: the state behind a character, with the
characters that it completes. A code in two digits is that of a plain character in a text that
has to consist of characters. -/
def TextState.step (kind : TextKind) (character : Char) :
    TextState → Option (TextState × List Char)
  | plain =>
    if character = '\\' then some (escape, [])
    else if character = '\r' then some (carriageReturn, [])
    else if kind.admits character then some (plain, [character])
    else none
  | carriageReturn => if character = '\n' then some (plain, ['\n']) else none
  | escape => afterEscape kind character
  | firstDigit => do
    let digit ← Text.hexDigit? character
    if digit < 8 || kind ≠ .characters then some (secondDigit digit, []) else none
  | secondDigit first => do
    let digit ← Text.hexDigit? character
    if kind.admitsCode (16 * first + digit) then
      some (plain, [Char.ofNat (16 * first + digit)])
    else
      none
  | codeBrace => if character = '\x7b' then some (code 0 0, []) else none
  | code value count =>
    if count = 0 then do
      let digit ← Text.hexDigit? character
      some (code digit 1, [])
    else if character = '_' then some (code value count, [])
    else if character = '\x7d' then
      if kind.admitsCode value then (characterOf? value).map fun meant => (plain, [meant])
      else none
    else if count = 6 then none
    else do
      let digit ← Text.hexDigit? character
      some (code (16 * value + digit) (count + 1), [])
  | continuation =>
    if character = ' ' ∨ character = '\t' ∨ character = '\n' then some (continuation, [])
    else if character = '\r' then some (continuedReturn, [])
    else if character = '\\' then some (escape, [])
    else if kind.admits character then some (plain, [character])
    else none
  | continuedReturn => if character = '\n' then some (continuation, []) else none

/-- Reads a text up to its closing quote, and gives its content and the characters behind it. -/
def readQuoted (kind : TextKind) : TextState → List Char → Option (List Char × List Char)
  | _, [] => none
  | state, character :: rest =>
    if character = '"' ∧ (state = .plain ∨ state = .continuation) then
      some ([], rest)
    else do
      let (next, completed) ← state.step kind character
      let (content, behind) ← readQuoted kind next rest
      some (completed ++ content, behind)

/-! ### Raw texts -/

/-- Reads a raw text up to the quote with its number of number signs. A carriage return is part
of a line break. -/
def readRaw (kind : TextKind) (signs : List Char) : List Char → Option (List Char × List Char)
  | [] => none
  | character :: rest =>
    if character = '"' ∧ signs.isPrefixOf rest then
      some ([], rest.drop signs.length)
    else if character = '\r' ∧ rest.head? ≠ some '\n' then
      none
    else if kind.admits character then do
      let (content, behind) ← readRaw kind signs rest
      some (character :: content, behind)
    else
      none

/-- The greatest number of number signs around a raw text. -/
def greatestSignCount : Nat := 255

/-- Reads what stands behind the mark of a raw text: number signs, a quote and the text. -/
def readRawMarked (kind : TextKind) (characters : List Char) :
    Option (List Char × List Char) :=
  let signs := characters.takeWhile (· = '#')
  if greatestSignCount < signs.length then
    none
  else
    match characters.drop signs.length with
    | '"' :: rest => readRaw kind signs rest
    | _ => none

/-! ### Texts and characters -/

/-- The characters behind a word that follows a literal, if one does. -/
def dropSuffix : List Char → List Char
  | [] => []
  | character :: rest =>
    if Text.startsWord character then rest.dropWhile Text.continuesWord else character :: rest

/-- Reads a text, and gives its content and the characters behind it. -/
def readText : List Char → Option (List Char × List Char)
  | '"' :: rest => readQuoted .characters .plain rest
  | 'r' :: rest => readRawMarked .characters rest
  | _ => none

/-- The content of a text literal, if the literal is one. -/
def textContent? (literal : String) : Option String :=
  (readText literal.toList).map fun read => String.ofList read.1

/-- Reads any literal in double quotes: a text, one of bytes, or one that ends in a zero. -/
def skipText (characters : List Char) : Option (List Char) :=
  let behind := match characters with
    | 'b' :: '"' :: rest => readQuoted .bytes .plain rest
    | 'b' :: 'r' :: rest => readRawMarked .bytes rest
    | 'c' :: '"' :: rest => readQuoted .terminated .plain rest
    | 'c' :: 'r' :: rest => readRawMarked .terminated rest
    | _ => readText characters
  behind.map fun read => dropSuffix read.2

/-- Reads the rest of a character behind its backslash. -/
def readEscaped (kind : TextKind) : TextState → List Char → Option (List Char)
  | _, [] => none
  | state, character :: rest => do
    let (next, completed) ← state.step kind character
    if next = .continuation ∨ next = .continuedReturn then none
    else if completed.isEmpty then readEscaped kind next rest
    else some rest

/-- Reads the rest of a character, with its closing quote, behind its opening quote. -/
def skipToQuote (kind : TextKind) (characters : List Char) : Option (List Char) :=
  let behind := match characters with
    | '\\' :: rest => readEscaped kind .escape rest
    | character :: rest => if kind.admits character then some rest else none
    | [] => none
  match behind with
  | some ('\'' :: rest) => some (dropSuffix rest)
  | _ => none

/-- Reads a character in single quotes. -/
def skipCharacter : List Char → Option (List Char)
  | 'b' :: '\'' :: rest => skipToQuote .bytes rest
  | '\'' :: rest => skipToQuote .characters rest
  | _ => none

/-! ### Numbers -/

/-- The characters behind a number, unless the number runs into a word. -/
def endNumber : List Char → Option (List Char)
  | [] => some []
  | character :: rest =>
    if Text.startsWord character then some (rest.dropWhile Text.continuesWord)
    else if Text.continuesWord character then none
    else some (character :: rest)

/-- Whether a character may stand among digits. -/
def isDigitOrGap (character : Char) : Bool :=
  character.isDigit || character = '_'

/-- Reads the digits of a number and the point among them, and says whether there was one. A
point behind which a name or another point stands does not belong to a number. -/
def readMantissa (hasPoint : Bool) : List Char → Option (Bool × List Char)
  | [] => some (hasPoint, [])
  | character :: rest =>
    if isDigitOrGap character then readMantissa hasPoint rest
    else if character = '.' ∧ !hasPoint then
      match rest with
      | next :: _ =>
        if next = '.' || Text.startsWord next then none else readMantissa true rest
      | [] => some (true, [])
    else some (hasPoint, character :: rest)

/-- Reads the exponent behind its mark: a sign or none, and digits. -/
def readExponent (characters : List Char) : Option (List Char) :=
  let unsigned := match characters.dropWhile (· = '_') with
    | '+' :: rest | '-' :: rest => rest
    | rest => rest
  let digits := unsigned.takeWhile isDigitOrGap
  if digits.any Char.isDigit then some (unsigned.drop digits.length) else none

/-- Reads a number with a point or an exponent. -/
def skipFraction (characters : List Char) : Option (List Char) := do
  let (hasPoint, rest) ← readMantissa false characters
  match rest with
  | mark :: behind =>
    if mark = 'e' ∨ mark = 'E' then
      match readExponent behind with
      | some final => endNumber final
      | none => if hasPoint then endNumber rest else none
    else if hasPoint then endNumber rest else none
  | [] => if hasPoint then some [] else none

/-- The base of a whole number and the characters behind its mark. -/
def readBase : List Char → Nat × List Char
  | '0' :: 'x' :: rest => (16, rest)
  | '0' :: 'o' :: rest => (8, rest)
  | '0' :: 'b' :: rest => (2, rest)
  | characters => (10, characters)

/-- Reads the digits of a whole number; a decimal digit outside the base is refused. -/
def readWhole (base : Nat) (read : Bool) : List Char → Option (List Char)
  | [] => if read then some [] else none
  | character :: rest =>
    if character = '_' ∧ (read ∨ base ≠ 10) then
      readWhole base read rest
    else
      match Text.hexDigit? character with
      | some digit =>
        if digit < base then readWhole base true rest
        else if digit < 10 ∨ !read then none
        else some (character :: rest)
      | none => if read then some (character :: rest) else none

/-- Reads a number. -/
def skipNumber : List Char → Option (List Char)
  | [] => none
  | first :: rest =>
    if first.isDigit then
      (skipFraction (first :: rest)).or do
        let (base, digits) := readBase (first :: rest)
        endNumber (← readWhole base false digits)
    else
      none

/-- The characters behind the literal that characters begin with. -/
def skipLiteral (characters : List Char) : Option (List Char) :=
  (skipText characters).or ((skipCharacter characters).or (skipNumber characters))

/-! ### What numbers say -/

/-- Whether a number has a point or an exponent. -/
def isFraction (number : List Char) : Bool :=
  let (base, digits) := readBase number
  base = 10 && match digits.dropWhile isDigitOrGap with
    | '.' :: _ => true
    | mark :: rest =>
      (mark = 'e' || mark = 'E') &&
        (rest.dropWhile (· = '_')).head?.any fun next => next.isDigit || next = '+' || next = '-'
    | [] => false

/-- The value of digits in a base, if they are digits and gaps only, continuing a value. -/
def digitsValue? (base value : Nat) : List Char → Option Nat
  | [] => some value
  | character :: rest =>
    if character = '_' then digitsValue? base value rest
    else do
      let digit ← Text.hexDigit? character
      if digit < base then digitsValue? base (base * value + digit) rest else none

/-- The place that a whole number names, if it has no suffix and no more than thirty-two bits. -/
def placeOf? (number : List Char) : Option Nat := do
  let (base, digits) := readBase number
  let value ← if number.head?.any Char.isDigit then digitsValue? base 0 digits else none
  if value < Nat.pow 2 32 then some value else none

end SqlRecords.Source
