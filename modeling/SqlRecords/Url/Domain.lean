/-
This file reads the domain names in urls.

A domain name is percent-decoded, and every character is put into the form that it has in such
names: letters are in lower case, wide forms of plain characters are plain, the full stops of
other scripts are points, and some characters leave no trace. After that no character may be
left that has a meaning in urls or that is no character of a text. A label with other than
plain characters is kept in its plain writing behind a mark; a label that comes with the mark
has to be the writing of such a label. A name that ends in a number is an internet address.
-/

import SqlRecords.Text.LowerCase
import SqlRecords.Text.Shown
import SqlRecords.Text.Utf8
import SqlRecords.Text.Word
import SqlRecords.Url.Ipv4
import SqlRecords.Url.Percent
import SqlRecords.Url.Punycode

namespace SqlRecords.Url

/-! ### Characters -/

/-- The characters that no host may hold. -/
def forbiddenInHost (character : Char) : Bool :=
  character == '\x00' || "\t\n\r #/:<>?@[\\]^|".toList.contains character

/-- The plain characters that no domain name may hold. -/
def forbiddenInDomain (character : Char) : Bool :=
  forbiddenInHost character || character ≤ '\x1f' || character == '%' || character == '\x7f'

/-- Whether a character is no character of a text: it shows nothing, not even on the character
before it, or it stands for one that was lost. -/
def isNoText (character : Char) : Bool :=
  character == '\uFFFD' || !(Text.isShown character || Text.continuesWord character)

/-- The characters that leave no trace in a domain name. -/
def tracelessRanges : Text.CodeRanges := [
    (0xAD, 0xAD), (0x34F, 0x34F), (0x180B, 0x180D), (0x180F, 0x180F), (0x200B, 0x200B),
    (0x2060, 0x2060), (0x2064, 0x2064), (0xFE00, 0xFE0F), (0xFEFF, 0xFEFF), (0xE0100, 0xE01EF)]

/-- The full stops that stand for points. -/
def fullStops : List Char :=
  [Char.ofNat 0x3002, Char.ofNat 0xFF0E, Char.ofNat 0xFF61]

/-- The plain character that a wide form stands for, and any other character itself. -/
def narrow (character : Char) : Char :=
  if 0xFF01 ≤ character.toNat ∧ character.toNat ≤ 0xFF5E then
    Char.ofNat (character.toNat - 0xFF01 + '!'.toNat)
  else
    character

/-- The form that a character has in a domain name. -/
def domainForm (character : Char) : List Char :=
  if Text.CodeRanges.covers tracelessRanges character then []
  else if fullStops.contains character then ['.']
  else if character = 'İ' then ['i', Char.ofNat 0x307]
  else [Text.lowerLetter (narrow character)]

/-- Whether a character may stand in a label, once it has its form. -/
def allowedInLabel (character : Char) : Bool :=
  if Punycode.isBasic character then !forbiddenInDomain character else !isNoText character

/-! ### Labels -/

/-- What the plain writing of a label begins with. -/
def labelMark : List Char := "xn--".toList

/-- The label that a plain writing without its mark stands for. -/
def labelOfWriting? (written : List Char) : Option (List Char) := do
  let label ← Punycode.decode? written
  let isInForm := label.flatMap domainForm == label && label.all allowedInLabel
  if isInForm && !label.all Punycode.isBasic then some label else none

/-- The plain form of a label. -/
def plainLabel? (label : List Char) : Option (List Char) :=
  if !label.all allowedInLabel then
    none
  else if labelMark.isPrefixOf label then
    (labelOfWriting? (label.drop labelMark.length)).map fun _ => label
  else if label.all Punycode.isBasic then
    some label
  else
    some (labelMark ++ Punycode.encode label)

/-! ### Names -/

/-- The plain form of a domain name. -/
def plainDomain? (characters : List Char) : Option (List Char) := do
  let text ← (Text.decodeUtf8 (decodeBytes characters)).toOption
  let labels ← (Text.splitAt '.' (text.toList.flatMap domainForm)).mapM plainLabel?
  some (List.intercalate ['.'] labels)

end SqlRecords.Url
