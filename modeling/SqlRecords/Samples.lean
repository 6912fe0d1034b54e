/-
This file holds sample records and sample predicates, to try the library out and for examples of
what is proved about it.

The records are declared like any others. Among them they have every type a field can have,
columns that are renamed, generated or left out, a table with two key columns and one without
any. The predicates are formulas over the fields of these records, a number and a text.
-/

import SqlRecords.Declaration.Written
import SqlRecords.Formula

namespace SqlRecords.Samples

open Declaration (WrittenField WrittenRecord)

/-! ### Records -/

/-- A field with the arguments of its attribute, if it has one. -/
def field (name type : String) (arguments : Option String) : WrittenField where
  name := some name
  type := type
  attributes := (arguments.map Declaration.attributeText).toList

/-- A person, in a table of another name. -/
def person : WrittenRecord where
  name := "Person"
  attributes := [Declaration.attributeText "name = \"people\""]
  fields := [
    field "id" "i32" (some "primary_key, generated, db_type = Int32"),
    field "name" "String" (some "name = \"full_name\", db_type = VarChar"),
    field "age" "u8" none,
    field "born" "Option<Date>" (some "db_type = Date"),
    field "balance" "Decimal" (some "db_type = NewDecimal"),
    field "active" "bool" none,
    field "visits" "u32" (some "skip")]

/-- A small record with a date, which has no content for a null. -/
def entry : WrittenRecord where
  name := "T"
  attributes := []
  fields := [
    field "id" "i32" (some "primary_key, generated"),
    field "name" "String" none,
    field "created" "Date" none]

/-- A record without a primary key. -/
def logLine : WrittenRecord where
  name := "LogLine"
  attributes := [Declaration.attributeText "name = \"log_lines\""]
  fields := [
    field "message" "String" none,
    field "level" "Option<String>" none]

/-- A record with fields of many types and attributes. -/
def everything : WrittenRecord where
  name := "Everything"
  attributes := []
  fields := [
    field "Seq" "Option<u64>" (some "generated"),
    field "key_one" "Uuid" (some "name = \"k1\", primary_key"),
    field "key_two" "Option<i8>" (some "primary_key, nullable"),
    field "data" "Vec<u8>" (some "db_type = LongBlob"),
    field "raw" "Box<[u8]>" none,
    field "r#type" "char" none,
    field "at" "Option<PrimitiveDateTime>" (some "db_type = DateTime"),
    field "clock" "Option<Time>" (some "db_type = Time, name = \"t of day\""),
    field "zoned" "Option<OffsetDateTime>" none,
    field "year" "Option<Date>" (some "db_type = Year"),
    field "f" "f64" (some "db_type = Float"),
    field "small" "std::option::Option<u16>" (some "db_type = UInt24"),
    field "cache" "Option<String>" (some "skip, generated")]

/-- The sample records. -/
def records : List WrittenRecord :=
  [person, entry, logLine, everything]

/-- The table of a declared record. -/
def tableOf? (record : WrittenRecord) : Option Table :=
  match record.table with
  | .ok table => table.toTable?
  | .error _ => none

/-- The table of the sample record with a name. -/
def table? (name : String) : Option Table := do
  tableOf? (← records.find? fun record => record.name == name)

/-! ### Predicates -/

/-- The sample predicates. -/
def predicates : List String :=
  ["Person::age >= int && !(Person::name == text) || Person::born == None",
    "Person::age < int || Person::age > 100 && Person::active != true",
    "!(!Person::active) && (Person::balance <= Decimal::new(int as i64, 2))",
    "None != Person::born",
    "\"a\" == \"b\"",
    "Person::name == Some(text.clone()) && Person::visits == None::<u32>",
    "((Person::age)) == text.len() as u64",
    "Everything::r#type == 'x' || Everything::key_one == Uuid::nil()",
    "text"]

/-- The operands that name fields of sample records. -/
def fieldOperands : List (String × Expression) :=
  records.flatMap fun record =>
    record.fields.filterMap fun field =>
      field.name.map fun name => (record.name ++ "::" ++ name, .field name)

/-- The operands that stand for the same value in every predicate. -/
def constantOperands : List (String × Expression) :=
  [("100", .literal (.integer .int32 (Integer.ofInt? .int32 100))),
    ("true", .literal (.boolean (some true))),
    ("\"a\"", .literal (.text (some "a"))),
    ("\"b\"", .literal (.text (some "b"))),
    ("'x'", .literal (.text (some "x"))),
    ("None::<u32>", .literal (.integer .uint32 none)),
    ("Uuid::nil()", .literal (.uuid (some Uuid.nil)))]

/-- The operands that stand for a number and a text, and for what is made of them. -/
def givenOperands (number : Integer .int32) (text : String) : List (String × Expression) :=
  [("int", .literal (.integer .int32 (some number))),
    ("text", .literal (.text (some text))),
    ("Some(text.clone())", .literal (.text (some text))),
    ("text.len()asu64", .literal (.integer .uint64 (Integer.ofInt? .uint64 text.utf8ByteSize))),
    ("Decimal::new(intasi64,2)",
      .literal (.decimal (Decimal.ofParts? (number.value < 0) number.value.natAbs 2)))]

/-- The sample predicate with a position, for a number and a text. -/
def predicate? (position : Nat) (number : Integer .int32) (text : String) : Option Expression := do
  let formula ← (Formula.ofText (← predicates[position]?)).toOption
  let operands := givenOperands number text ++ constantOperands ++ fieldOperands
  formula.toExpression? fun operand => operands.lookup operand

end SqlRecords.Samples
