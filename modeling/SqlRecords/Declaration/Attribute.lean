/-
This file holds the attributes of declarations, and what they say about records and fields.

An attribute of this library is told by its name and has a list of arguments in parentheses;
other attributes are passed over. An argument is read on its own: its name, a value where the name
wants one, and nothing behind that up to the next comma. Arguments are read in the order in which
they are written, whatever attributes they are spread over, and the first one that cannot be read
decides the error.
-/

import SqlRecords.Source.Literal
import SqlRecords.Source.Token

namespace SqlRecords.Declaration

open Source (Token)

/-! ### Attributes -/

/-- What stands between two commas of an attribute. -/
structure Argument where
  tokens : List Token
  /-- whether nothing follows, not even a comma -/
  isLast : Bool
deriving DecidableEq, Repr

/-- An attribute. -/
inductive Attribute where
  /-- an attribute that is not of this library -/
  | foreign
  /-- one without anything behind its name -/
  | bare
  /-- one with a value behind its name -/
  | assigned
  | listed (arguments : List Argument)
deriving DecidableEq, Repr

/-- The name of the attributes of this library. -/
def attributeName : String := "quarry"

/-- The arguments in the tokens behind an argument's beginning, of which some groups are open. A
comma at the very end begins no argument. -/
def splitArguments : Nat → List Token → List Token → List Argument
  | _, before, [] => if before.isEmpty then [] else [⟨before.reverse, true⟩]
  | 0, before, .sign ',' _ :: rest => ⟨before.reverse, false⟩ :: splitArguments 0 [] rest
  | depth, before, .opening delimiter :: rest =>
    splitArguments (depth + 1) (.opening delimiter :: before) rest
  | depth, before, .closing delimiter :: rest =>
    splitArguments (depth - 1) (.closing delimiter :: before) rest
  | depth, before, token :: rest => splitArguments depth (token :: before) rest

/-! ### Errors -/

/-- The flags of a field. -/
inductive Flag where
  | primaryKey
  | generated
  | nullable
  | skip
deriving DecidableEq, Repr

/-- The name of a flag. -/
def Flag.name : Flag → String
  | primaryKey => "primary_key"
  | generated => "generated"
  | nullable => "nullable"
  | skip => "skip"

/-- Why a declaration is refused. -/
inductive Error where
  /-- the texts are no declaration at all -/
  | notADeclaration
  | unnamedField
  | bareAttribute
  | assignedAttribute
  | missingArgument
  | literalArgument
  | strangeArgument
  /-- a double colon without a word behind it, at the end or not -/
  | brokenPath (isLast : Bool)
  | missingComma
  | malformedTableName
  | foreignTableArgument
  | malformedName
  | malformedTag
  | malformedFlag (flag : Flag)
  | unknownArgument (path : String)
deriving DecidableEq, Repr

/-- The beginning of the message about a malformed argument. -/
def malformed (name usage : String) : String :=
  "Error while parsing `" ++ name ++ "`, use it like: `#[" ++ attributeName ++ "(" ++ usage ++ ")]`"

/-- The wording of the reason. -/
def Error.message : Error → String
  | notADeclaration => "expected a declaration"
  | unnamedField => "Entity fields are expected to have a name"
  | bareAttribute => "expected attribute arguments in parentheses: #[" ++ attributeName ++ "(...)]"
  | assignedAttribute => "expected parentheses: #[" ++ attributeName ++ "(...)]"
  | missingArgument => "unexpected end of input, expected nested attribute"
  | literalArgument => "unexpected literal in nested attribute, expected ident"
  | strangeArgument => "unexpected token in nested attribute, expected ident"
  | brokenPath true => "unexpected end of input, expected ident"
  | brokenPath false => "expected ident"
  | missingComma => "expected `,`"
  | malformedTableName => malformed "name" "name = \"my_table\""
  | foreignTableArgument =>
    "Only `name` is allowed on the struct inside " ++ attributeName ++ " macro"
  | malformedName => malformed "name" "name = \"my_column\""
  | malformedTag => malformed "db_type" "db_type = VarChar"
  | malformedFlag flag => malformed flag.name flag.name
  | unknownArgument path =>
    "Unknown attribute `" ++ path ++ "` inside " ++ attributeName ++ " macro"

/-! ### Names of arguments -/

/-- Reads the words of a path behind its first one. The bound is on their number. -/
def readPathRest (isLast : Bool) : Nat → List Token → Except Error (String × List Token)
  | 0, tokens => .ok ("", tokens)
  | bound + 1, tokens =>
    match Token.after? "::" tokens with
    | some (.word word :: rest) => do
      let (others, behind) ← readPathRest isLast bound rest
      return (" :: " ++ word ++ others, behind)
    | some rest => .error (.brokenPath (isLast && rest.isEmpty))
    | none => .ok ("", tokens)

/-- Reads the name of an argument: words with double colons between them, and perhaps one in
front. Words of the language are as good as others. -/
def Argument.readPath (argument : Argument) : Except Error (String × List Token) :=
  let path := Token.after? "::" argument.tokens
  match path.getD argument.tokens with
  | .word word :: rest => do
    let (others, behind) ← readPathRest argument.isLast rest.length rest
    return ((if path.isSome then ":: " else "") ++ word ++ others, behind)
  | rest =>
    if rest.isEmpty && argument.isLast then .error .missingArgument
    else if Token.beginsLiteral rest then .error .literalArgument
    else .error .strangeArgument

/-! ### Values of arguments -/

/-- Reads an equals sign and a text. -/
def readTextValue : List Token → Option (String × List Token)
  | .sign '=' _ :: .literal literal :: rest =>
    (Source.textContent? literal).map fun content => (content, rest)
  | _ => none

/-- Reads an equals sign and a name. -/
def readNameValue : List Token → Option (String × List Token)
  | .sign '=' _ :: .word word :: rest => if Token.isName word then some (word, rest) else none
  | _ => none

/-- An argument that was read, unless something stands behind it. -/
def complete {Meaning : Type} (meaning : Meaning) (rest : List Token) : Except Error Meaning :=
  if rest.isEmpty then .ok meaning else .error .missingComma

/-! ### Arguments of records and fields -/

/-- What an argument says about a field. -/
inductive FieldArgument where
  | name (text : String)
  | tag (word : String)
  | flag (flag : Flag)
deriving DecidableEq, Repr

/-- The flag with a name. -/
def flagOfName? (name : String) : Option Flag :=
  [Flag.primaryKey, .generated, .nullable, .skip].find? fun flag => flag.name == name

/-- Reads an argument about a field. -/
def FieldArgument.ofArgument (argument : Argument) : Except Error FieldArgument := do
  let (path, rest) ← argument.readPath
  if path = "name" then
    match readTextValue rest with
    | some (text, behind) => complete (.name text) behind
    | none => .error .malformedName
  else if path = "db_type" then
    match readNameValue rest with
    | some (word, behind) => complete (.tag word) behind
    | none => .error .malformedTag
  else
    match flagOfName? path with
    | some found =>
      if Token.beginsWith "=" rest then .error (.malformedFlag found)
      else complete (.flag found) rest
    | none => .error (.unknownArgument path)

/-- Reads an argument about a record, which can only be the name of its table. -/
def tableNameOfArgument (argument : Argument) : Except Error String := do
  let (path, rest) ← argument.readPath
  if path = "name" then
    match readTextValue rest with
    | some (text, behind) => complete text behind
    | none => .error .malformedTableName
  else
    .error .foreignTableArgument

/-! ### Arguments of several attributes -/

/-- Reads the arguments of an attribute. -/
def Attribute.read {Meaning : Type} (readArgument : Argument → Except Error Meaning) :
    Attribute → Except Error (List Meaning)
  | foreign => .ok []
  | bare => .error .bareAttribute
  | assigned => .error .assignedAttribute
  | listed arguments => arguments.mapM readArgument

/-- Reads the arguments of attributes. -/
def readAttributes {Meaning : Type} (readArgument : Argument → Except Error Meaning)
    (attributes : List Attribute) : Except Error (List Meaning) :=
  (attributes.mapM (Attribute.read readArgument)).map List.flatten

end SqlRecords.Declaration
