/-
This file holds the percent-encoding of text in urls: a character that has no place where it
stands is written as its bytes, each as a percent sign and two upper case hex digits.

Which characters keep their place depends on the part of the url; the percent sign itself keeps
it everywhere.
-/

import SqlRecords.Text.Digits

namespace SqlRecords.Url

/-! ### Encoding -/

/-- An upper case hex digit. -/
def upperHexDigit (digit : Nat) : Char :=
  (Nat.digitChar digit).toUpper

/-- A byte as a percent sign and two hex digits. -/
def encodeByte (byte : UInt8) : List Char :=
  ['%', upperHexDigit (byte.toNat / 16), upperHexDigit (byte.toNat % 16)]

/-- Writes a character as it is or encoded. -/
def encodeCharacter (kept : Char → Bool) (character : Char) : List Char :=
  if kept character then [character] else (String.utf8EncodeChar character).flatMap encodeByte

/-- Encodes the characters of a text that the test does not keep. -/
def percentEncode (kept : Char → Bool) (characters : List Char) : List Char :=
  characters.flatMap (encodeCharacter kept)

/-- The bytes that an encoded text stands for. A percent sign that two hex digits do not follow
stands for itself. -/
def decodeBytes : List Char → List UInt8
  | [] => []
  | '%' :: first :: second :: rest =>
    match Text.hexDigit? first, Text.hexDigit? second with
    | some high, some low => UInt8.ofNat (16 * high + low) :: decodeBytes rest
    | _, _ => String.utf8EncodeChar '%' ++ decodeBytes (first :: second :: rest)
  | character :: rest => String.utf8EncodeChar character ++ decodeBytes rest

/-! ### The characters that keep their place -/

/-- Whether a character is a plain one that shows on the page. -/
def isPlain (character : Char) : Bool :=
  '\x20' ≤ character && character ≤ '~'

/-- The characters that keep their place in a host that is only a name. -/
def keptInHost (character : Char) : Bool :=
  isPlain character

/-- The characters that keep their place in a fragment. -/
def keptInFragment (character : Char) : Bool :=
  isPlain character && !(" \"<>`".toList.contains character)

/-- The characters that keep their place in a query. -/
def keptInQuery (special : Bool) (character : Char) : Bool :=
  isPlain character && !(" \"#<>".toList.contains character) && !(special && character == '\'')

/-- The characters that keep their place in a path. -/
def keptInPath (character : Char) : Bool :=
  isPlain character && !(" \"#<>?`\x7b\x7d".toList.contains character)

/-- The characters that keep their place in a user name or a password. -/
def keptInUser (character : Char) : Bool :=
  keptInPath character && !("/:;=@[\\]^|".toList.contains character)

end SqlRecords.Url
