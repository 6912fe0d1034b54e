/-
This file holds the tokens that declarations and predicates are written in.

A token is a word, a lifetime, a literal, a sign or a delimiter. Signs are single characters; an
operator of several characters is a run of signs of which all but the last are joint, that is,
have another sign right behind them. The text of tokens has no white space between them.
-/

namespace SqlRecords.Source

/-! ### Tokens -/

/-- The pairs of delimiters. -/
inductive Delimiter where
  | parenthesis
  | bracket
  | brace
deriving DecidableEq, Repr

/-- A token. -/
inductive Token where
  | word (text : String)
  | lifetime (text : String)
  | literal (text : String)
  /-- a sign; it is joint when another sign follows without a gap -/
  | sign (character : Char) (joint : Bool)
  | opening (delimiter : Delimiter)
  | closing (delimiter : Delimiter)
deriving DecidableEq, Repr

namespace Token

/-- The text of a token. -/
def text : Token → String
  | word text => text
  | lifetime text => text
  | literal text => text
  | sign character _ => String.singleton character
  | opening .parenthesis => "("
  | opening .bracket => "["
  | opening .brace => "\x7b"
  | closing .parenthesis => ")"
  | closing .bracket => "]"
  | closing .brace => "\x7d"

/-- The text of tokens, without white space between them. -/
def textOf (tokens : List Token) : String :=
  String.join (tokens.map text)

/-! ### Words -/

/-- The words that name nothing. -/
def keywords : List String :=
  ["_", "abstract", "as", "async", "await", "become", "box", "break", "const", "continue",
    "crate", "do", "dyn", "else", "enum", "extern", "false", "final", "fn", "for", "if", "impl",
    "in", "let", "loop", "macro", "match", "mod", "move", "mut", "override", "priv", "pub", "ref",
    "return", "Self", "self", "static", "struct", "super", "trait", "true", "try", "type",
    "typeof", "unsafe", "unsized", "use", "virtual", "where", "while", "yield"]

/-- Whether a word can name something. -/
def isName (word : String) : Bool :=
  !keywords.contains word

/-! ### Looking at tokens -/

/-- The tokens behind an operator of one or more signs, if they begin with it. -/
def afterSigns? : List Char → List Token → Option (List Token)
  | [], tokens => some tokens
  | [wanted], sign character _ :: rest => if character = wanted then some rest else none
  | wanted :: others, sign character true :: rest =>
    if character = wanted then afterSigns? others rest else none
  | _, _ => none

/-- The tokens behind an operator, if they begin with it. -/
def after? (operator : String) (tokens : List Token) : Option (List Token) :=
  afterSigns? operator.toList tokens

/-- The tokens behind a word, if they begin with it. -/
def afterWord? (wanted : String) : List Token → Option (List Token)
  | word found :: rest => if found = wanted then some rest else none
  | _ => none

/-- Whether tokens begin with an operator. -/
def beginsWith (operator : String) (tokens : List Token) : Bool :=
  (after? operator tokens).isSome

/-- Whether tokens begin with one of some operators. -/
def beginsWithAny (operators : List String) (tokens : List Token) : Bool :=
  operators.any fun operator => beginsWith operator tokens

/-- Whether tokens begin with a colon that is no part of a double colon. -/
def beginsSingleColon (tokens : List Token) : Bool :=
  beginsWith ":" tokens && !beginsWith "::" tokens

/-- Whether tokens begin with a point that is no part of several. -/
def beginsSinglePoint (tokens : List Token) : Bool :=
  beginsWith "." tokens && !beginsWith ".." tokens

/-- Whether tokens begin with an exclamation mark that is no part of an inequality. -/
def beginsBang (tokens : List Token) : Bool :=
  beginsWith "!" tokens && !beginsWith "!=" tokens

/-- Whether tokens begin with one of some words. -/
def beginsWord (wanted : List String) : List Token → Bool
  | word found :: _ => wanted.contains found
  | _ => false

/-- Whether tokens begin with any word. -/
def beginsAnyWord : List Token → Bool
  | word _ :: _ => true
  | _ => false

/-- Whether tokens begin with a word that can name something. -/
def beginsName : List Token → Bool
  | word found :: _ => isName found
  | _ => false

/-- Whether tokens begin with a lifetime. -/
def beginsLifetime : List Token → Bool
  | lifetime _ :: _ => true
  | _ => false

/-- Whether tokens begin with a literal. A minus in front of a number belongs to it. -/
def beginsLiteral : List Token → Bool
  | literal _ :: _ => true
  | sign '-' _ :: literal text :: _ => text.toList.head?.any Char.isDigit
  | word text :: _ => text = "true" || text = "false"
  | _ => false

/-- Whether tokens begin with a text in quotes. -/
def beginsText : List Token → Bool
  | literal found :: _ => found.startsWith "\"" || found.startsWith "r"
  | _ => false

/-- Whether tokens begin with a group in delimiters. -/
def opens (delimiter : Delimiter) : List Token → Bool
  | opening found :: _ => found = delimiter
  | _ => false

/-- Whether nothing is left between the delimiters, or at all. -/
def atEnd : List Token → Bool
  | [] => true
  | closing _ :: _ => true
  | _ => false

/-- Whether the last token closes a brace. -/
def endsInBrace (tokens : List Token) : Bool :=
  tokens.getLast? = some (closing .brace)

/-! ### Going over tokens -/

/-- The tokens behind the delimiter that closes as many as are open. -/
def skipOpen : Nat → List Token → Option (List Token)
  | 0, tokens => some tokens
  | _ + 1, [] => none
  | depth + 1, opening _ :: rest => skipOpen (depth + 2) rest
  | depth + 1, closing _ :: rest => skipOpen depth rest
  | depth + 1, _ :: rest => skipOpen (depth + 1) rest

/-- What stands behind the first token, where a group counts as one; nothing stands behind the
end of a group. -/
def behindFirst : List Token → List Token
  | [] => []
  | closing _ :: _ => []
  | opening _ :: rest => (skipOpen 1 rest).getD []
  | _ :: rest => rest

/-- What stands behind the first two tokens. -/
def behindSecond (tokens : List Token) : List Token :=
  behindFirst (behindFirst tokens)

/-- The tokens that were read when some are left. -/
def before (tokens rest : List Token) : List Token :=
  tokens.take (tokens.length - rest.length)

end Token

end SqlRecords.Source
