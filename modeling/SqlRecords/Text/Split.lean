/-
This file splits texts at marks: into all the pieces between the occurrences of a mark, or into
the two sides of its last occurrence. The mark itself is in none of the pieces.
-/

namespace SqlRecords.Text

/-- Splits a text at every occurrence of a mark. -/
def splitAt (mark : Char) : List Char → List (List Char)
  | [] => [[]]
  | character :: rest =>
    match splitAt mark rest with
    | [] => [[character]]
    | first :: others =>
      if character = mark then [] :: first :: others else (character :: first) :: others

/-- What stands before and after the last occurrence of a mark, if there is one. -/
def splitAtLast? (mark : Char) (characters : List Char) : Option (List Char × List Char) :=
  match characters.reverse.dropWhile (· != mark) with
  | [] => none
  | _ :: before => some (before.reverse, characters.drop (before.length + 1))

end SqlRecords.Text
