/-
This file reads string literals the way a server does, and proves that whatever text a literal
was written for comes back from it, with everything behind the literal left alone. A text can
therefore not end its literal early and become part of the statement.

The reader has two modes, one per dialect. In both a quote inside a literal is written twice;
in one of them a backslash also gives the next character another meaning, and that may well be
a quote. What is written must be safe in the mode it is read in, whatever quotes and backslashes
stand next to each other in the text or at its end.
-/

import SqlRecords.Proofs.Sql.Writing

namespace SqlRecords

/-! ### The reader -/

/-- What a backslash and the given character stand for in a string literal. The two signs of
patterns keep their backslash, and a character without a meaning of its own stands for itself. -/
def unescape : Char → List Char
  | '0' => ['\x00']
  | 'b' => ['\x08']
  | 'n' => ['\n']
  | 'r' => ['\r']
  | 't' => ['\t']
  | 'Z' => ['\x1a']
  | '%' => ['\\', '%']
  | '_' => ['\\', '_']
  | character => [character]

/-- Reads the inside of a string literal up to the quote that ends it: the content and what
stands behind the literal. -/
def Dialect.readContent (dialect : Dialect) : List Char → Option (List Char × List Char)
  | [] => none
  | '\'' :: '\'' :: rest =>
    (dialect.readContent rest).map fun read => ('\'' :: read.1, read.2)
  | '\'' :: rest => some ([], rest)
  | '\\' :: character :: rest =>
    match dialect with
    | standard =>
      (dialect.readContent (character :: rest)).map fun read => ('\\' :: read.1, read.2)
    | mysql =>
      (dialect.readContent rest).map fun read => (unescape character ++ read.1, read.2)
  | character :: rest =>
    (dialect.readContent rest).map fun read => (character :: read.1, read.2)

/-- Reads the string literal that a text begins with. -/
def Dialect.readString (dialect : Dialect) : List Char → Option (List Char × List Char)
  | '\'' :: rest => dialect.readContent rest
  | _ => none

/-! ### Reading what was written -/

/-- A quote that no other quote follows ends a literal. -/
theorem readContent_quote (dialect : Dialect) (rest : List Char) (ends : rest.head? ≠ some '\'') :
    dialect.readContent ('\'' :: rest) = some ([], rest) := by
  rw [Dialect.readContent]
  rintro more rfl
  exact ends rfl

/-- A character that is neither a quote nor a backslash stands for itself. -/
theorem readContent_plain (dialect : Dialect) (character : Char) (rest : List Char)
    (notQuote : character ≠ '\'') (notBackslash : character ≠ '\\') :
    dialect.readContent (character :: rest) =
      (dialect.readContent rest).map fun read => (character :: read.1, read.2) := by
  rw [Dialect.readContent] <;> simp_all

/-- In the standard dialect a backslash is a character like any other, provided something
follows it. -/
theorem readContent_backslash (rest : List Char) (content after : List Char)
    (read : Dialect.standard.readContent rest = some (content, after)) :
    Dialect.standard.readContent ('\\' :: rest) = some ('\\' :: content, after) := by
  cases rest with
  | nil => cases read
  | cons first rest => rw [Dialect.readContent, read, Option.map_some]

theorem escape_of_plain (dialect : Dialect) (character : Char) (notQuote : character ≠ '\'')
    (notBackslash : character ≠ '\\') : dialect.escape character = [character] := by
  cases dialect <;> simp_all [Dialect.escape]

/-- What is written for one character is read as that character. -/
theorem readContent_escape (dialect : Dialect) (character : Char) (rest content after : List Char)
    (read : dialect.readContent rest = some (content, after)) :
    dialect.readContent (dialect.escape character ++ rest) =
      some (character :: content, after) := by
  by_cases quote : character = '\''
  · subst quote
    rw [show dialect.escape '\'' = ['\'', '\''] by cases dialect <;> rfl]
    show dialect.readContent ('\'' :: '\'' :: rest) = _
    rw [Dialect.readContent, read, Option.map_some]
  · by_cases backslash : character = '\\'
    · subst backslash
      cases dialect with
      | standard => exact readContent_backslash rest content after read
      | mysql =>
        show Dialect.mysql.readContent ('\\' :: '\\' :: rest) = _
        rw [Dialect.readContent, read, Option.map_some]
        rfl
    · rw [escape_of_plain dialect character quote backslash, List.singleton_append,
        readContent_plain dialect character rest quote backslash, read, Option.map_some]

/-- What is written for a list of characters and the final quote is read as those characters. -/
theorem readContent_flatMap_escape (dialect : Dialect) (characters rest : List Char)
    (ends : rest.head? ≠ some '\'') :
    dialect.readContent (characters.flatMap dialect.escape ++ '\'' :: rest) =
      some (characters, rest) := by
  induction characters with
  | nil => exact readContent_quote dialect rest ends
  | cons character characters inductionHypothesis =>
    rw [List.flatMap_cons, List.append_assoc]
    exact readContent_escape dialect character _ characters rest inductionHypothesis

theorem toList_stringLiteral (dialect : Dialect) (text : String) :
    (dialect.stringLiteral text).toList =
      '\'' :: (text.toList.flatMap dialect.escape ++ ['\'']) := by
  rw [Dialect.stringLiteral, String.toList_ofList]
  rfl

/-- A literal that no quote follows is read as the text it was written for. -/
theorem readString_stringLiteral (dialect : Dialect) (text : String) (rest : List Char)
    (ends : rest.head? ≠ some '\'') :
    dialect.readString ((dialect.stringLiteral text).toList ++ rest) =
      some (text.toList, rest) := by
  rw [toList_stringLiteral, List.cons_append, List.append_assoc, List.singleton_append]
  exact readContent_flatMap_escape dialect text.toList rest ends

/-- A text value is written as a literal that keeps the text in: with anything but a quote
behind it, it is read as exactly that text, and what stands behind it is left as it is. -/
theorem readString_writeValue (dialect : Dialect) (context : Context) (text before rest : String)
    (ends : rest.toList.head? ≠ some '\'') :
    (dialect.writeValue context (.text (some text))).runOn before =
        (.ok (), before ++ dialect.stringLiteral text) ∧
      dialect.readString (dialect.stringLiteral text ++ rest).toList =
        some (text.toList, rest.toList) := by
  constructor
  · rfl
  · rw [String.toList_append]
    exact readString_stringLiteral dialect text rest.toList ends

theorem readString_writeValue_trailing_backslash :
    " OR 1".toList.head? ≠ some '\'' ∧
      (Dialect.mysql.writeValue ⟨.selectWhere, none⟩ (.text (some "it's\\"))).runOn "name = " =
        (.ok (), "name = " ++ Dialect.mysql.stringLiteral "it's\\") ∧
      Dialect.mysql.readString (Dialect.mysql.stringLiteral "it's\\" ++ " OR 1").toList =
        some ("it's\\".toList, " OR 1".toList) :=
  ⟨by decide, readString_writeValue .mysql ⟨.selectWhere, none⟩ "it's\\" "name = " " OR 1"
    (by decide)⟩

end SqlRecords
