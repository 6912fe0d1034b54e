/-
This file says which characters are white space and how texts are trimmed.

White space is the property of that name: twenty-five code points, among them the no-break
space and the ideographic space, but not the zero-width space. Trimming removes such
characters from an end of a text until another character stands there, and never touches the
inside.
-/

import SqlRecords.Text.CodeRange

namespace SqlRecords.Text

/-! ### White space -/

/-- The white space characters. -/
def blankRanges : CodeRanges :=
  [(0x9, 0xD), (0x20, 0x20), (0x85, 0x85), (0xA0, 0xA0), (0x1680, 0x1680), (0x2000, 0x200A),
    (0x2028, 0x2029), (0x202F, 0x202F), (0x205F, 0x205F), (0x3000, 0x3000)]

/-- Whether a character is white space. -/
def isBlank (character : Char) : Bool :=
  blankRanges.covers character

/-! ### Trimming -/

/-- The characters from the first one on that fails the test. -/
def dropStart (removed : Char → Bool) (characters : List Char) : List Char :=
  characters.dropWhile removed

/-- The characters up to the last one that fails the test. -/
def dropEnd (removed : Char → Bool) (characters : List Char) : List Char :=
  (characters.reverse.dropWhile removed).reverse

/-- The characters between the first and the last one that fail the test, both included. -/
def strip (removed : Char → Bool) (characters : List Char) : List Char :=
  dropEnd removed (dropStart removed characters)

/-- A text without the white space at its end. -/
def trimEnd (text : String) : String :=
  String.ofList (dropEnd isBlank text.toList)

/-- A text without the white space at its two ends. -/
def trim (text : String) : String :=
  String.ofList (strip isBlank text.toList)

end SqlRecords.Text
