/-
This file holds the one question every character table of the library answers: does a
character's code point lie in one of finitely many intervals?

A table is a list of closed intervals in ascending order. The order is a convenience for the
reader of a table; membership does not depend on it.
-/

namespace SqlRecords.Text

/-- A character table: closed intervals of code points, each given by its first and its last
member. -/
abbrev CodeRanges := List (Nat × Nat)

/-- Whether a character's code point lies in one of the intervals. -/
def CodeRanges.covers (ranges : CodeRanges) (character : Char) : Bool :=
  ranges.any fun range => range.1 ≤ character.toNat && character.toNat ≤ range.2

end SqlRecords.Text
