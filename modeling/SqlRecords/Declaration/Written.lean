/-
This file reads declarations whose parts are written as texts: the name of a record, its
attributes, and for each field its name, its type and its attributes.

The parts are put together to the text of a declaration, which is then read as a whole. A record
one of whose fields has no name is a tuple; its fields stand in parentheses and not in braces.
-/

import SqlRecords.Declaration
import SqlRecords.Source.ReaderStack
import SqlRecords.Source.Scan

namespace SqlRecords.Declaration

open Source (Token)

/-! ### Written parts -/

/-- A field whose parts are texts. An attribute is what stands in its brackets. -/
structure WrittenField where
  name : Option String
  type : String
  attributes : List String
deriving DecidableEq, Repr

/-- A record whose parts are texts. -/
structure WrittenRecord where
  name : String
  attributes : List String
  fields : List WrittenField
deriving DecidableEq, Repr

/-- The text of an attribute of this library with some arguments. -/
def attributeText (arguments : String) : String :=
  attributeName ++ "(" ++ arguments ++ ")"

/-! ### From parts to a text -/

/-- The text of attributes. -/
def attributesText (attributes : List String) : String :=
  String.join (attributes.map fun content => "#[" ++ content ++ "] ")

/-- The text of a field. -/
def WrittenField.text (field : WrittenField) : String :=
  attributesText field.attributes ++ (field.name.map (· ++ ": ")).getD "" ++ field.type ++ ", "

/-- The text of a record. -/
def WrittenRecord.text (record : WrittenRecord) : String :=
  let fields := String.join (record.fields.map WrittenField.text)
  attributesText record.attributes ++ "struct " ++ record.name ++
    if record.fields.any (·.name.isNone) then "(" ++ fields ++ ");"
    else " \x7b " ++ fields ++ "\x7d"

/-! ### From a text to a declaration -/

/-- What an attribute means here. -/
def Attribute.ofForm (form : Source.AttributeForm) : Attribute :=
  if form.path = [.word attributeName] then
    match form.content with
    | .nothing => .bare
    | .value => .assigned
    | .list inside => .listed (splitArguments 0 [] inside)
  else
    .foreign

/-- Whether a type is that of optional contents. -/
def isOptionalType (type : Source.TypeForm) : Bool :=
  match type.shape with
  | .path path => path.isOptional
  | _ => false

/-- The type that a text is. -/
def typeOfText? (text : String) : Option (List Token) := do
  Source.Reader.whole? Source.Readers.typeTokens (← Source.scan text)

/-- The field that was read. -/
def Field.ofForm (form : Source.FieldForm) : Field where
  name := form.name
  type := form.type.tokens
  isOptional := isOptionalType form.type
  attributes := form.attributes.map Attribute.ofForm

/-- The record that a text declares. -/
def Record.ofText? (text : String) : Option Record := do
  let tokens ← Source.scan text
  let (attributes, record) ← Source.Reader.whole? Source.readAttributedRecord tokens
  return ⟨record.name, attributes.map Attribute.ofForm, record.fields.map Field.ofForm⟩

/-- The table that texts declare. -/
def WrittenRecord.table (record : WrittenRecord) : Except Error DeclaredTable :=
  match Record.ofText? record.text with
  | some record => record.table
  | none => .error .notADeclaration

end SqlRecords.Declaration
