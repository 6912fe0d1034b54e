/-
This file reads the declarations of types that consist of parts: records, enumerations and
unions.

A record has named fields in braces, unnamed ones in parentheses, or none. Of a record that was
read its name and its fields are kept beside its tokens.
-/

import SqlRecords.Source.BoundGrammar

namespace SqlRecords.Source

variable (inner : Readers)

/-! ### Fields -/

/-- A field that was read. -/
structure FieldForm where
  attributes : List AttributeForm
  name : Option String
  type : TypeForm
  tokens : List Token

/-- Fields that were read, with the delimiters around them. -/
structure FieldsForm where
  fields : List FieldForm
  tokens : List Token

/-- Reads fields in delimiters. -/
def readFields (delimiter : Delimiter) (field : Reader FieldForm) : Reader FieldsForm := do
  let opening ← Reader.single (· = .opening delimiter)
  let fields ← Reader.separated field "," Token.atEnd
  let closing ← Reader.single (· = .closing delimiter)
  return ⟨fields.map Prod.fst,
    opening ++ fields.flatMap (fun field => field.1.tokens ++ field.2) ++ closing⟩

/-- Whether tokens begin a type that has fields and no name. -/
def beginsNamelessType (tokens : List Token) : Bool :=
  Token.beginsWord ["struct"] tokens ||
    Token.beginsWord ["union"] tokens && Token.opens .brace (Token.behindFirst tokens)

/-- Reads a named field. Where the word that names nothing stands for its name, its type may be
one that has fields and no name, which is kept as it is written. -/
def readNamedField (nested : Reader FieldsForm) : Reader FieldForm := do
  let attributes ← readAttributeForms inner
  let visibility ← readVisibility
  let name ← Reader.name <|> Reader.word "_"
  let colon ← Reader.sign ":"
  let isNameless := Token.beginsWord ["_"] name
  let type ← if ← Reader.ahead fun tokens => isNameless && beginsNamelessType tokens then do
      pure ⟨← Reader.asWritten (do let _ ← Reader.anyWord; nested), .other⟩
    else inner.type true
  return ⟨attributes, some (Token.textOf name), type,
    AttributeForm.tokensOf attributes ++ visibility ++ name ++ colon ++ type.tokens⟩

/-- Reads named fields in braces. The bound is on the depth of types without names. -/
def readNamedFieldsWithin : Nat → Reader FieldsForm
  | 0 => failure
  | bound + 1 => readFields .brace (readNamedField inner (readNamedFieldsWithin bound))

/-- Reads named fields in braces. -/
def readNamedFields : Reader FieldsForm := fun tokens =>
  readNamedFieldsWithin inner (tokens.length + 1) tokens

/-- Reads a field without a name. -/
def readUnnamedField : Reader FieldForm := do
  let attributes ← readAttributeForms inner
  let visibility ← readVisibility
  let type ← inner.type true
  return ⟨attributes, none, type,
    AttributeForm.tokensOf attributes ++ visibility ++ type.tokens⟩

/-- Reads fields without names in parentheses. -/
def readUnnamedFields : Reader FieldsForm :=
  readFields .parenthesis (readUnnamedField inner)

/-! ### Records -/

/-- A record that was read. -/
structure RecordForm where
  name : String
  fields : List FieldForm
  tokens : List Token

/-- Reads what follows the name and the parameters of a record. Conditions on the parameters
stand in front of named fields and behind unnamed ones. -/
def readRecordBody : Reader FieldsForm := do
  let conditions ← readConditions inner
  let tokens ← get
  if Token.opens .brace tokens then
    let fields ← readNamedFields inner
    return ⟨fields.fields, conditions ++ fields.tokens⟩
  else if Token.opens .parenthesis tokens && conditions.isEmpty then
    let fields ← readUnnamedFields inner
    let rest ← Reader.inOrder [readConditions inner, Reader.sign ";"]
    return ⟨fields.fields, fields.tokens ++ rest⟩
  else
    return ⟨[], conditions ++ (← Reader.sign ";")⟩

/-- Reads a record behind its attributes. -/
def readRecord : Reader RecordForm := do
  let front ← Reader.inOrder [readVisibility, Reader.word "struct"]
  let name ← Reader.name
  let parameters ← readGenerics inner
  let body ← readRecordBody inner
  return ⟨Token.textOf name, body.fields, front ++ name ++ parameters ++ body.tokens⟩

/-- Reads a record with its attributes. -/
def readAttributedRecord : Reader (List AttributeForm × RecordForm) := do
  return (← readAttributeForms inner, ← readRecord inner)

/-! ### Enumerations and unions -/

/-- Reads the fields of a variant, if it has any. -/
def readVariantFields : Reader (List Token) := do
  let tokens ← get
  if Token.opens .brace tokens then return (← readNamedFields inner).tokens
  else if Token.opens .parenthesis tokens then return (← readUnnamedFields inner).tokens
  else return []

/-- Reads a variant of an enumeration. Where it can be seen has no place in the regular form. -/
def readVariant : Reader (List Token) := do
  let attributes ← readAttributes inner
  let _ ← readVisibility
  return attributes ++ (← Reader.inOrder [Reader.name, readVariantFields inner,
    Reader.given (Token.beginsWith "=")
      (Reader.inOrder [Reader.sign "=", inner.expressionTokens])])

/-- Reads an enumeration behind its attributes. -/
def readEnumeration : Reader (List Token) :=
  Reader.inOrder [readVisibility, Reader.word "enum", Reader.name, readGenerics inner,
    readConditions inner, Reader.group .brace (Reader.commaSeparated (readVariant inner))]

/-- Reads a union behind its attributes. -/
def readUnion : Reader (List Token) := do
  let front ← Reader.inOrder [readVisibility, Reader.word "union", Reader.name,
    readGenerics inner, readConditions inner]
  return front ++ (← readNamedFields inner).tokens

end SqlRecords.Source
