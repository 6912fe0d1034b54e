/-
This file holds universally unique identifiers: sixteen bytes, written as thirty-two hex digits
in five groups.

Reading accepts the plain digits, the five groups with hyphens between them, and the five groups
inside braces or behind the word `urn:uuid:`. A refused text is told apart by the first thing
that is wrong with it, where a foreign character counts before a wrong number of groups and that
before a wrong length of a group.
-/

import SqlRecords.Text.Digits

namespace SqlRecords

/-- A universally unique identifier. -/
structure Uuid where
  bytes : List UInt8
  size : bytes.length = 16
deriving DecidableEq

namespace Uuid

/-- The identifier with the given bytes, if there are sixteen of them. -/
def ofBytes? (bytes : List UInt8) : Option Uuid :=
  if size : bytes.length = 16 then some ⟨bytes, size⟩ else none

/-- The identifier all of whose bits are zero. -/
def nil : Uuid :=
  ⟨List.replicate 16 0, rfl⟩

/-! ### Writing -/

/-- The two hex digits of a byte. -/
def byteDigits (byte : UInt8) : List Char :=
  [Nat.digitChar (byte.toNat / 16), Nat.digitChar (byte.toNat % 16)]

/-- The numbers of bytes in the five groups. -/
def groupSizes : List Nat := [4, 2, 2, 2, 6]

/-- Bytes as hex digits, in groups of the given sizes with hyphens between them. -/
def writeGroups : List Nat → List UInt8 → List Char
  | [], _ => []
  | [size], bytes => (bytes.take size).flatMap byteDigits
  | size :: sizes, bytes =>
    (bytes.take size).flatMap byteDigits ++ ['-'] ++ writeGroups sizes (bytes.drop size)

/-- The text of an identifier: five groups of lower case hex digits. -/
def characters (uuid : Uuid) : List Char :=
  writeGroups groupSizes uuid.bytes

/-- The text of an identifier. -/
def text (uuid : Uuid) : String :=
  String.ofList uuid.characters

/-! ### Reading -/

/-- Reads bytes of two hex digits each. -/
def readBytes : List Char → Option (List UInt8)
  | [] => some []
  | [_] => none
  | first :: second :: rest => do
    let high ← Text.hexDigit? first
    let low ← Text.hexDigit? second
    let bytes ← readBytes rest
    some (UInt8.ofNat (16 * high + low) :: bytes)

/-- Reads bytes in groups of the given sizes with hyphens between them. -/
def readGroups : List Nat → List Char → Option (List UInt8)
  | [], characters => if characters.isEmpty then some [] else none
  | [_], characters => readBytes characters
  | size :: sizes, characters => do
    let bytes ← readBytes (characters.take (2 * size))
    match characters.drop (2 * size) with
    | '-' :: rest => do
      let others ← readGroups sizes rest
      some (bytes ++ others)
    | _ => none

/-- The word that may stand before an identifier. -/
def urnMark : List Char := "urn:uuid:".toList

/-- The text behind the word `urn:uuid:` in any letter case, if it begins with it. -/
def afterUrnMark? (characters : List Char) : Option (List Char) :=
  if (characters.take urnMark.length).map Char.toLower = urnMark then
    some (characters.drop urnMark.length)
  else
    none

/-- The text between braces, if it stands in braces. -/
def insideBraces? : List Char → Option (List Char)
  | '\x7b' :: rest => if rest.getLast? = some '\x7d' then some rest.dropLast else none
  | _ => none

/-- The number of bytes a text takes. -/
def byteLength (characters : List Char) : Nat :=
  (characters.map Char.utf8Size).foldl (· + ·) 0

/-- The text without braces or the word in front of it, where these leave the length of five
groups. -/
def unwrap (characters : List Char) : List Char :=
  match insideBraces? characters with
  | some inner => if byteLength characters = 38 then inner else characters
  | none =>
    match afterUrnMark? characters with
    | some inner => if byteLength characters = 45 then inner else characters
    | none => characters

/-- Reads an identifier. -/
def read? (characters : List Char) : Option Uuid :=
  let inner := unwrap characters
  let bytes :=
    if byteLength characters = 32 then readBytes inner
    else if byteLength inner = 36 then readGroups groupSizes inner
    else none
  bytes.bind ofBytes?

/-! ### What is wrong with a refused text -/

/-- Why a text is not an identifier. -/
inductive TextError where
  | invalidLength (found : Nat)
  | invalidCharacter (character : Char) (index : Nat)
  | invalidGroupCount (found : Nat)
  | invalidGroupLength (group expected found : Nat)
deriving DecidableEq, Repr

/-- The wording of the reason. -/
def TextError.message : TextError → String
  | invalidLength found => "invalid length: found " ++ toString found
  | invalidCharacter character index =>
    "invalid character: found `" ++ String.singleton character ++ "` at " ++ toString index
  | invalidGroupCount found => "invalid group count: expected 5, found " ++ toString found
  | invalidGroupLength group expected found =>
    "invalid group length in group " ++ toString group ++ ": expected " ++ toString expected ++
      ", found " ++ toString found

/-- The first character that is neither a hex digit nor a hyphen, with the byte it begins at,
counted on from the given one. -/
def foreignCharacter? : Nat → List Char → Option (Char × Nat)
  | _, [] => none
  | index, character :: rest =>
    if character = '-' ∨ (Text.hexDigit? character).isSome then
      foreignCharacter? (index + character.utf8Size) rest
    else
      some (character, index)

/-- The places of the hyphens, counted on from the given one. -/
def hyphenPlaces : Nat → List Char → List Nat
  | _, [] => []
  | index, character :: rest =>
    if character = '-' then index :: hyphenPlaces (index + 1) rest
    else hyphenPlaces (index + 1) rest

/-- The first group whose length is wrong, given the hyphens that end the groups. The last group
is at fault when no other is. -/
def wrongGroup (total : Nat) : Nat → Nat → List Nat → List Nat → TextError
  | group, start, size :: sizes, place :: places =>
    if place = start + 2 * size then
      wrongGroup total (group + 1) (place + 1) sizes places
    else
      .invalidGroupLength group (2 * size) (place - start)
  | group, start, size :: _, [] => .invalidGroupLength group (2 * size) (total - start)
  | group, start, [], _ => .invalidGroupLength group 0 (total - start)

/-- What is wrong with a text that is not an identifier. -/
def diagnose (characters : List Char) : TextError :=
  let whole := unwrap characters
  let total := byteLength whole
  if characters.isEmpty ∨ 45 < byteLength characters then
    .invalidLength (byteLength characters)
  else
    let (inner, offset, bare) :=
      match insideBraces? whole with
      | some inner => (inner, 1, false)
      | none =>
        match afterUrnMark? whole with
        | some inner => (inner, urnMark.length, false)
        | none => (whole, 0, true)
    match foreignCharacter? offset inner with
    | some (character, index) => .invalidCharacter character index
    | none =>
      let hyphens := hyphenPlaces 0 inner
      if hyphens.isEmpty && bare then .invalidLength total
      else if hyphens.length ≠ 4 then .invalidGroupCount (hyphens.length + 1)
      else wrongGroup total 0 0 groupSizes hyphens

/-- Reads an identifier. -/
def ofText (characters : List Char) : Except TextError Uuid :=
  match read? characters with
  | some uuid => .ok uuid
  | none => .error (diagnose characters)

end Uuid

end SqlRecords
