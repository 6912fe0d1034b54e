/-
This file holds declarations of records, and the tables that they declare.

A declaration names a record and its fields and gives a type to each of them. Attributes say
what differs from the rule: the name of the table is that of the record, the name of a column is
the lower case name of its field, and a column is nullable when its field is optional. The last
name and the last database type that are given count; the flags count wherever they are given,
and of the one for primary keys and the one for nullable columns the last one decides whether the
column is nullable.
-/

import SqlRecords.Declaration.Attribute
import SqlRecords.Table
import SqlRecords.Text.LowerCase

namespace SqlRecords.Declaration

open Source (Token)

/-! ### Declarations -/

/-- A field of a declared record. -/
structure Field where
  /-- the name, which the fields of a tuple do not have -/
  name : Option String
  type : List Token
  /-- whether the type is that of optional contents -/
  isOptional : Bool
  attributes : List Attribute
deriving DecidableEq, Repr

/-- A declared record. -/
structure Record where
  name : String
  attributes : List Attribute
  fields : List Field
deriving DecidableEq, Repr

/-- The column that a field declares. -/
structure DeclaredColumn where
  field : String
  type : List Token
  name : String
  /-- the name of the database type -/
  tag : Option String
  primaryKey : Bool
  generated : Bool
  nullable : Bool
  mapped : Bool
deriving DecidableEq, Repr

/-- The table that a record declares. -/
structure DeclaredTable where
  name : String
  columns : List DeclaredColumn
deriving DecidableEq, Repr

/-! ### Columns -/

namespace DeclaredColumn

/-- The column of a field about which nothing is said. -/
def plain (field : String) (type : List Token) (isOptional : Bool) : DeclaredColumn where
  field := field
  type := type
  name := Text.lowerCase field
  tag := none
  primaryKey := false
  generated := false
  nullable := isOptional
  mapped := true

/-- A column with one more flag. -/
def setFlag (column : DeclaredColumn) : Flag → DeclaredColumn
  | .primaryKey => { column with primaryKey := true, nullable := false }
  | .generated => { column with generated := true }
  | .nullable => { column with nullable := true }
  | .skip => { column with mapped := false }

/-- A column about which one more thing is said. -/
def apply (column : DeclaredColumn) : FieldArgument → DeclaredColumn
  | .name text => { column with name := text }
  | .tag word => { column with tag := some word }
  | .flag flag => column.setFlag flag

end DeclaredColumn

/-- The column that a field declares. -/
def Field.column (field : Field) : Except Error DeclaredColumn :=
  match field.name with
  | none => .error .unnamedField
  | some name => do
    let arguments ← readAttributes FieldArgument.ofArgument field.attributes
    return arguments.foldl DeclaredColumn.apply (.plain name field.type field.isOptional)

/-! ### Tables -/

/-- The name of the table that a record declares. -/
def Record.tableName (record : Record) : Except Error String := do
  let names ← readAttributes tableNameOfArgument record.attributes
  return names.getLastD record.name

/-- The table that a record declares. -/
def Record.table (record : Record) : Except Error DeclaredTable := do
  let name ← record.tableName
  let columns ← record.fields.mapM Field.column
  return ⟨name, columns⟩

/-! ### Types of fields -/

/-- The types of fields as they are written. -/
def writtenTypes : List (String × ScalarType) :=
  [("i8", .integer .int8), ("i16", .integer .int16), ("i32", .integer .int32),
    ("i64", .integer .int64), ("u8", .integer .uint8), ("u16", .integer .uint16),
    ("u32", .integer .uint32), ("u64", .integer .uint64), ("f32", .floating .single),
    ("f64", .floating .double), ("bool", .boolean), ("Decimal", .decimal), ("String", .text),
    ("char", .character), ("Box<[u8]>", .fixedBytes), ("Vec<u8>", .bytes), ("Date", .date),
    ("Time", .time), ("PrimitiveDateTime", .timestamp), ("OffsetDateTime", .zoned),
    ("Uuid", .uuid)]

/-- The tokens of a type behind the words of its path that have double colons behind them. -/
def lastSegment : List Token → List Token
  | .word first :: .sign ':' true :: .sign ':' joint :: rest =>
    match rest with
    | .word _ :: _ => lastSegment rest
    | _ => .word first :: .sign ':' true :: .sign ':' joint :: rest
  | tokens => tokens

/-- The scalar type that tokens write. -/
def scalarTypeOf? (tokens : List Token) : Option ScalarType :=
  writtenTypes.lookup (Token.textOf (lastSegment tokens))

/-- The tokens between the angle brackets of an optional type. -/
def optionalContent? (tokens : List Token) : Option (List Token) := do
  let rest ← Token.afterWord? "Option" (lastSegment tokens)
  let inside ← Token.after? "<" ((Token.after? "::" rest).getD rest)
  match inside.getLast? with
  | some (.sign '>' _) => some inside.dropLast
  | _ => none

/-- The type of a field that tokens write. -/
def fieldTypeOf? (tokens : List Token) : Option FieldType :=
  match optionalContent? tokens with
  | some inside => (scalarTypeOf? inside).map .optional
  | none => (scalarTypeOf? tokens).map .required

/-! ### Usable tables -/

/-- The column of a table that a declared column is, if its types are known. -/
def DeclaredColumn.toColumn? (column : DeclaredColumn) : Option Column := do
  let type ← fieldTypeOf? column.type
  let tag ← match column.tag with
    | some word => (ColumnTag.ofName? word).map some
    | none => some none
  return {
    field := column.field
    name := column.name
    tag := tag
    primaryKey := column.primaryKey
    generated := column.generated
    nullable := column.nullable
    mapped := column.mapped
    type := some type }

/-- The table that a declared table is, if all its types are known. -/
def DeclaredTable.toTable? (table : DeclaredTable) : Option Table := do
  return ⟨table.name, ← table.columns.mapM DeclaredColumn.toColumn?⟩

end SqlRecords.Declaration
