/-
This file writes a text the way an error message quotes it: between double quotes, with a
backslash before a quote or a backslash, and with every character that would not show written
as its code point.
-/

import SqlRecords.Text.Shown

namespace SqlRecords.Text

/-- What a quoted text holds for one character. -/
def quotedCharacter (character : Char) : List Char :=
  if character = '\x00' then ['\\', '0']
  else if character = '\t' then ['\\', 't']
  else if character = '\r' then ['\\', 'r']
  else if character = '\n' then ['\\', 'n']
  else if character = '"' then ['\\', '"']
  else if character = '\\' then ['\\', '\\']
  else if isShown character then [character]
  else ['\\', 'u', '\x7b'] ++ Nat.toDigits 16 character.toNat ++ ['\x7d']

/-- A text between double quotes. -/
def quoted (text : String) : String :=
  String.ofList (['"'] ++ text.toList.flatMap quotedCharacter ++ ['"'])

end SqlRecords.Text
