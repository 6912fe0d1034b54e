/-
This file cuts long texts down to what a log line or an error message may quote.

A text of at most `excerptLimit` bytes is quoted whole. A longer one is quoted up to the last
boundary between two of its characters that the limit does not exceed, and three dots say that
something is missing. White space at the end of what is quoted is dropped in both cases, so an
excerpt never takes more than three bytes over the limit and never ends inside a character.

The boundary is looked for among the bytes, from the limit backwards. A search that comes to the
start without a boundary has no result, and the bytes in front of a place inside a character are no
text. Neither happens to the bytes of a text.
-/

import SqlRecords.Text.Blank
import SqlRecords.Text.Utf8

namespace SqlRecords.Text

/-! ### Boundaries -/

/-- Whether a position among the bytes of a text is not inside a character: it is the start or the
end, or a byte stands there that does not continue a character. -/
def isBoundary (bytes : List UInt8) (position : Nat) : Bool :=
  position == 0 ||
    match bytes[position]? with
    | some byte => byte < 0x80 || 0xC0 ≤ byte
    | none => position == bytes.length

/-- The boundary that a search finds from a position on backwards: the position, if it is one, and
otherwise what the search from the position before it finds. -/
def boundaryUpTo? (bytes : List UInt8) (position : Nat) : Option Nat :=
  if isBoundary bytes position then
    some position
  else
    match position with
    | 0 => none
    | previous + 1 => boundaryUpTo? bytes previous

/-- The beginning of a text in front of the boundary that the search from the given number of bytes
on finds. -/
def beginning? (room : Nat) (text : String) : Option String := do
  let boundary ← boundaryUpTo? (encodeUtf8 text) room
  (decodeUtf8 ((encodeUtf8 text).take boundary)).toOption

/-! ### Excerpts -/

/-- The greatest number of bytes of a text that an excerpt quotes. -/
def excerptLimit : Nat := 497

/-- What a message quotes of a text. -/
def excerpt (text : String) : String :=
  if text.utf8ByteSize ≤ excerptLimit then
    trimEnd text
  else
    trimEnd ((beginning? excerptLimit text).getD "") ++ "..."

end SqlRecords.Text
