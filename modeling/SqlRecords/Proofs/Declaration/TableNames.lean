/-
This file says which names a declared table has when its attributes name nothing, and when these
names open comments in the statements about it.

The name of the record and the names of its fields are kept as they are written, the latter in lower
case. A name that is a word of the language needs a mark in front, `r#`, and the mark stays in the
name. Identifiers have no other character that means something to the server, so it is the mark, and
nothing else, that begins a comment.
-/

import SqlRecords.Proofs.Declaration.FieldColumn
import SqlRecords.Proofs.Sql.CommentOpeners
import SqlRecords.Proofs.Text.Utf8

namespace SqlRecords

/-! ### Identifiers -/

/-- Whether a name is an identifier, with a mark in front or without. -/
def Source.IsIdentifier (name : String) : Prop :=
  Source.readWord name.toList = some (name, [])

/-- Whether a name has the mark that makes an identifier of a word of the language. -/
def IsRaw (name : String) : Prop :=
  ['r', '#'] <+: name.toList

/-- Whether all characters of a name are of the plain range. -/
def IsAscii (name : String) : Prop :=
  ∀ character ∈ name.toList, character.toNat < 128

/-- Whether a character can stand in a word. -/
def IsInWord (character : Char) : Prop :=
  Text.startsWord character = true ∨ Text.continuesWord character = true

theorem not_mem_of_isInWord {character : Char} (inWord : IsInWord character) :
    character ∉ '#' :: Mysql.reserved := by
  have outside : ('#' :: Mysql.reserved).all fun character =>
      !Text.startsWord character && !Text.continuesWord character := by decide +kernel
  intro member
  have neither := List.all_eq_true.mp outside character member
  rw [Bool.and_eq_true, Bool.not_eq_true', Bool.not_eq_true'] at neither
  rcases inWord with starts | continues
  · exact absurd (starts.symm.trans neither.1) (by decide)
  · exact absurd (continues.symm.trans neither.2) (by decide)

theorem isInWord_of_readPlainWord {characters behind : List Char} {text : String}
    (read : Source.readPlainWord characters = some (text, behind)) :
    ∀ character ∈ text.toList, IsInWord character := by
  cases characters with
  | nil => cases read
  | cons first rest =>
    rw [Source.readPlainWord] at read
    split at read
    case isFalse => cases read
    case isTrue starts =>
      cases read
      rw [String.toList_ofList, List.forall_mem_cons]
      exact ⟨.inl starts, fun character member => .inr (List.mem_takeWhile_imp member)⟩

/-- An identifier has no sign of comments or quotes but the number sign of its mark. -/
theorem isPlainIdentifier_of_isIdentifier {name : String} (identifier : Source.IsIdentifier name) :
    Mysql.IsPlainIdentifier name ∧ ('#' ∈ name.toList ↔ IsRaw name) := by
  have plain {text : String} (word : ∀ character ∈ text.toList, IsInWord character) :
      Mysql.IsPlainIdentifier text ∧ '#' ∉ text.toList :=
    ⟨fun character member inside =>
      not_mem_of_isInWord (word character member) (List.mem_cons_of_mem _ inside),
      fun member => not_mem_of_isInWord (word '#' member) List.mem_cons_self⟩
  unfold Source.IsIdentifier Source.readWord at identifier
  split at identifier
  case h_1 rest marked =>
    obtain ⟨⟨text, behind⟩, read, equal⟩ := Option.bind_eq_some_iff.mp identifier
    obtain ⟨isPlain, -⟩ := plain (isInWord_of_readPlainWord read)
    obtain ⟨-, named⟩ := Option.ite_none_left_eq_some.mp equal
    cases named
    have whole : ("r#" ++ text).toList = ['r', '#'] ++ text.toList := String.toList_append
    have raw : IsRaw ("r#" ++ text) := ⟨text.toList, whole.symm⟩
    refine ⟨?_, iff_of_true (raw.subset (by decide)) raw⟩
    unfold Mysql.IsPlainIdentifier
    rw [whole, List.forall_mem_append]
    exact ⟨List.all_iff_forall_prop.mp rfl, isPlain⟩
  case h_2 =>
    obtain ⟨isPlain, unmarked⟩ := plain (isInWord_of_readPlainWord identifier)
    exact ⟨isPlain, iff_of_false unmarked fun raw => unmarked (raw.subset (by decide))⟩

/-! ### Lower case -/

theorem lowerAfter_of_ascii {characters : List Char}
    (ascii : ∀ character ∈ characters, character.toNat < 128) (before : List Char) :
    Text.lowerAfter before characters = characters.map Text.lowerLetter := by
  induction characters generalizing before with
  | nil => rfl
  | cons character rest inductionHypothesis =>
    obtain ⟨small, further⟩ := List.forall_mem_cons.mp ascii
    have notSigma : character ≠ 'Σ' := by
      rintro rfl
      exact absurd small (by decide)
    have notDotted : character ≠ 'İ' := by
      rintro rfl
      exact absurd small (by decide)
    rw [Text.lowerAfter, if_neg notSigma, if_neg notDotted, inductionHypothesis further]
    rfl

/-- In the plain range only one run of letters changes. -/
theorem lowerLetter_of_ascii {character : Char} (small : character.toNat < 128) :
    Text.lowerLetter character =
      if 0x41 ≤ character.toNat ∧ character.toNat ≤ 0x5A then Char.ofNat (character.toNat + 32)
      else character := by
  have later : Text.lowerCaseRuns.tail.all fun run => decide (128 ≤ run.first) := by
    decide +kernel
  have none : Text.lowerCaseRuns.tail.find? (·.covers character.toNat) = none := by
    refine List.find?_eq_none.mpr fun run member covers => ?_
    have begins := of_decide_eq_true (List.all_eq_true.mp later run member)
    simp only [Text.CaseRun.covers, Bool.and_eq_true, decide_eq_true_eq] at covers
    omega
  have runs : Text.lowerCaseRuns = ⟨0x41, 0x5A, 1, 32⟩ :: Text.lowerCaseRuns.tail := rfl
  have first : (⟨0x41, 0x5A, 1, 32⟩ : Text.CaseRun).covers character.toNat =
      decide (0x41 ≤ character.toNat ∧ character.toNat ≤ 0x5A) := by
    simp only [Text.CaseRun.covers, Nat.mod_one, BEq.rfl, Bool.and_true, Bool.decide_and]
  unfold Text.lowerLetter
  rw [runs, List.find?_cons, first, none]
  by_cases upper : 0x41 ≤ character.toNat ∧ character.toNat ≤ 0x5A
  · rw [decide_eq_true upper, if_pos upper]
    rfl
  · rw [decide_eq_false upper, if_neg upper]

theorem reserved_of_lowerLetter {character : Char} (small : character.toNat < 128) :
    (Text.lowerLetter character ∈ Mysql.reserved → character ∈ Mysql.reserved) ∧
      (Text.lowerLetter character = '#' ↔ character = '#') := by
  rw [lowerLetter_of_ascii small]
  split
  case isFalse => exact ⟨id, Iff.rfl⟩
  case isTrue upper =>
    have changed : ∀ code < 0x5B, 0x41 ≤ code →
        Char.ofNat (code + 32) ∉ '#' :: Mysql.reserved ∧ Char.ofNat code ≠ '#' := by
      decide +kernel
    obtain ⟨lowered, other⟩ := changed character.toNat (Nat.lt_succ_of_le upper.2) upper.1
    rw [Char.ofNat_toNat] at other
    exact ⟨fun member => absurd (List.mem_cons_of_mem _ member) lowered,
      iff_of_false (fun equal => lowered (equal ▸ List.mem_cons_self)) other⟩

/-- Writing a plain identifier in lower case adds no sign of comments or quotes, and takes none
away. -/
theorem isPlainIdentifier_lowerCase {name : String} (ascii : IsAscii name)
    (plain : Mysql.IsPlainIdentifier name) :
    Mysql.IsPlainIdentifier (Text.lowerCase name) ∧
      ('#' ∈ (Text.lowerCase name).toList ↔ '#' ∈ name.toList) := by
  unfold Mysql.IsPlainIdentifier Text.lowerCase
  rw [String.toList_ofList, lowerAfter_of_ascii ascii, List.forall_mem_map, List.mem_map]
  refine ⟨fun character member inside => ?_, ?_⟩
  · exact plain character member ((reserved_of_lowerLetter (ascii character member)).1 inside)
  · constructor
    · rintro ⟨character, member, lowered⟩
      rwa [← (reserved_of_lowerLetter (ascii character member)).2.mp lowered]
    · exact fun member => ⟨'#', member, (reserved_of_lowerLetter (by decide)).2.mpr rfl⟩

namespace Declaration

/-! ### Declarations that name nothing -/

/-- The arguments of an attribute. -/
def Attribute.arguments : Attribute → List Argument
  | listed arguments => arguments
  | foreign | bare | assigned => []

/-- Whether none of some attributes gives a name. -/
def NamesNothing (attributes : List Attribute) : Prop :=
  ∀ argument ∈ attributes.flatMap Attribute.arguments,
    argument.tokens.head? ≠ some (.word "name")

/-- What is read from attributes is read from one of their arguments. -/
theorem exists_argument_of_readAttributes {Meaning : Type}
    {read : Argument → Except Error Meaning} {attributes : List Attribute}
    {meanings : List Meaning} (done : readAttributes read attributes = .ok meanings)
    {meaning : Meaning} (member : meaning ∈ meanings) :
    ∃ argument ∈ attributes.flatMap Attribute.arguments, read argument = .ok meaning := by
  obtain ⟨lists, mapped, rfl⟩ := (map_eq_ok_iff _ _ _).mp done
  obtain ⟨list, among, inside⟩ := List.mem_flatten.mp member
  obtain ⟨first, own, readFirst⟩ :=
    exists_mem_of_forall₂ ((mapM_eq_ok_iff _ _ _).mp mapped) among
  cases first with
  | foreign =>
    cases readFirst
    cases inside
  | bare => cases readFirst
  | assigned => cases readFirst
  | listed arguments =>
    obtain ⟨argument, belongs, means⟩ :=
      exists_mem_of_forall₂ ((mapM_eq_ok_iff _ _ _).mp readFirst) inside
    exact ⟨argument, List.mem_flatMap_of_mem own belongs, means⟩

theorem head?_of_tableNameOfArgument {argument : Argument} {text : String}
    (read : tableNameOfArgument argument = .ok text) :
    argument.tokens.head? = some (.word "name") := by
  obtain ⟨⟨path, rest⟩, readPath, further⟩ := (bind_eq_ok_iff _ _ _).mp read
  dsimp only at further
  split at further
  case isTrue isName =>
    subst isName
    rw [tokens_eq_of_readPath readPath (by decide)]
    rfl
  case isFalse => cases further

theorem head?_of_means_name {tokens : List Source.Token} {text : String}
    (means : FieldArgument.Means tokens (.name text)) : tokens.head? = some (.word "name") := by
  cases means
  rfl

theorem tableName_of_namesNothing {record : Record} {name : String}
    (nothing : NamesNothing record.attributes) (accepted : record.tableName = .ok name) :
    name = record.name := by
  obtain ⟨names, read, equal⟩ := (bind_eq_ok_iff _ _ _).mp accepted
  have empty : names = [] := by
    refine List.eq_nil_iff_forall_not_mem.mpr fun given member => ?_
    obtain ⟨argument, among, means⟩ := exists_argument_of_readAttributes read member
    exact nothing argument among (head?_of_tableNameOfArgument means)
  rw [empty] at equal
  exact (Except.ok.inj equal).symm

theorem foldl_apply_names {said : List FieldArgument} (nameless : ∀ text, .name text ∉ said)
    (column : DeclaredColumn) :
    (said.foldl DeclaredColumn.apply column).field = column.field ∧
      (said.foldl DeclaredColumn.apply column).name = column.name := by
  induction said generalizing column with
  | nil => exact ⟨rfl, rfl⟩
  | cons first rest inductionHypothesis =>
    rw [List.foldl_cons]
    obtain ⟨field, name⟩ := inductionHypothesis
      (fun text member => nameless text (List.mem_cons_of_mem _ member)) (column.apply first)
    rw [field, name]
    cases first with
    | name text => exact absurd List.mem_cons_self (nameless text)
    | tag word => exact ⟨rfl, rfl⟩
    | flag flag => cases flag <;> exact ⟨rfl, rfl⟩

theorem column_of_namesNothing {field : Field} {column : DeclaredColumn}
    (nothing : NamesNothing field.attributes) (accepted : field.column = .ok column) :
    field.name = some column.field ∧ column.name = Text.lowerCase column.field := by
  rw [Field.column] at accepted
  split at accepted
  case h_1 => cases accepted
  case h_2 name named =>
    obtain ⟨said, read, equal⟩ := (bind_eq_ok_iff _ _ _).mp accepted
    cases equal
    have nameless : ∀ text, .name text ∉ said := by
      intro text member
      obtain ⟨argument, among, means⟩ := exists_argument_of_readAttributes read member
      exact nothing argument among
        (head?_of_means_name ((FieldArgument.ofArgument_eq_ok_iff _ _).mp means))
    obtain ⟨keepsField, keepsName⟩ := foldl_apply_names nameless
      (.plain name field.type field.isOptional)
    rw [keepsField, keepsName, named]
    exact ⟨rfl, rfl⟩

/-! ### The table of a declaration -/

/-- Whether a column has the names and the flags that are declared. -/
structure DeclaredColumn.Describes (declared : DeclaredColumn) (column : Column) : Prop where
  field : column.field = declared.field
  name : column.name = declared.name
  primaryKey : column.primaryKey = declared.primaryKey
  generated : column.generated = declared.generated
  nullable : column.nullable = declared.nullable
  mapped : column.mapped = declared.mapped

/-- Whether a table is the one that is declared, whatever the types of its fields. -/
structure DeclaredTable.Describes (declared : DeclaredTable) (table : Table) : Prop where
  name : table.name = declared.name
  columns : List.Forall₂ DeclaredColumn.Describes declared.columns table.columns

theorem describes_of_toColumn? {declared : DeclaredColumn} {column : Column}
    (known : declared.toColumn? = some column) : declared.Describes column := by
  obtain ⟨type, -, further⟩ := Option.bind_eq_some_iff.mp known
  cases tagged : declared.tag with
  | none =>
    rw [tagged] at further
    cases further
    exact ⟨rfl, rfl, rfl, rfl, rfl, rfl⟩
  | some word =>
    rw [tagged] at further
    obtain ⟨tag, -, equal⟩ := Option.bind_eq_some_iff.mp further
    cases equal
    exact ⟨rfl, rfl, rfl, rfl, rfl, rfl⟩

theorem describes_of_toTable? {declared : DeclaredTable} {table : Table}
    (known : declared.toTable? = some table) : declared.Describes table := by
  obtain ⟨columns, mapped, equal⟩ := Option.bind_eq_some_iff.mp known
  cases equal
  exact ⟨rfl, ((mapM_eq_some_iff _ _ _).mp mapped).imp fun _ _ => describes_of_toColumn?⟩

/-- The columns of the table of a record that names nothing are named for its fields. -/
theorem column_of_table {record : Record} {declared : DeclaredTable} {table : Table}
    (accepted : record.table = .ok declared)
    (nothing : ∀ field ∈ record.fields, NamesNothing field.attributes)
    (described : declared.Describes table) {column : Column} (member : column ∈ table.columns) :
    ∃ field ∈ record.fields, field.name = some column.field ∧
      column.name = Text.lowerCase column.field := by
  obtain ⟨name, -, further⟩ := (bind_eq_ok_iff _ _ _).mp accepted
  obtain ⟨columns, mapped, equal⟩ := (bind_eq_ok_iff _ _ _).mp further
  cases equal
  obtain ⟨other, among, same⟩ := exists_mem_of_forall₂ described.columns member
  obtain ⟨field, own, declares⟩ := exists_mem_of_forall₂ ((mapM_eq_ok_iff _ _ _).mp mapped) among
  obtain ⟨fieldName, columnName⟩ := column_of_namesNothing (nothing field own) declares
  refine ⟨field, own, ?_, ?_⟩
  · rw [same.field, fieldName]
  · rw [same.name, same.field, columnName]

theorem name_of_table {record : Record} {declared : DeclaredTable} {table : Table}
    (accepted : record.table = .ok declared) (nothing : NamesNothing record.attributes)
    (described : declared.Describes table) : table.name = record.name := by
  obtain ⟨name, named, further⟩ := (bind_eq_ok_iff _ _ _).mp accepted
  obtain ⟨columns, -, equal⟩ := (bind_eq_ok_iff _ _ _).mp further
  cases equal
  exact described.name.trans (tableName_of_namesNothing nothing named)

/-! ### Comments in the statements about a declared table -/

/-- A statement names columns of its own table only. -/
theorem mem_columns_of_mem_namedColumns {input : WriterInput} {table : Table}
    (about : input.IsStatement table) {column : Column} (member : column ∈ input.namedColumns) :
    column ∈ table.columns := by
  have isKey (given : Table) (key : column ∈ (given.primaryKey?.map Prod.snd).toList) :
      column ∈ given.columns := by
    obtain ⟨⟨position, other⟩, found, rfl⟩ :=
      Option.map_eq_some_iff.mp (Option.mem_toList.mp key)
    exact List.mem_of_getElem? ((primaryKey?_eq_some_iff given position other).mp found).found
  cases input with
  | value context value => exact about.elim
  | expression context expression => exact about.elim
  | insert other rows => cases member
  | query query =>
    obtain ⟨rfl, -⟩ := about
    obtain ⟨field, -, found⟩ := List.mem_filterMap.mp member
    exact List.mem_of_find?_eq_some found
  | update other row =>
    cases about
    rcases List.mem_append.mp member with assigned | key
    · obtain ⟨cell, among, rfl⟩ := List.mem_map.mp assigned
      exact (List.of_mem_zip (List.mem_filter.mp among).1).1
    · exact isKey _ key
  | delete other row =>
    cases about
    exact isKey _ member

/-- Let a record with fields of plain letters be accepted, and none of its attributes give a name.
Whatever is stored of it or asked about it by its own fields: a statement for MySQL opens a comment
exactly if the name of the record or that of a field whose column the statement names has the mark
of raw identifiers. -/
theorem opensComment_iff_isRaw (record : Record) (declared : DeclaredTable) (table : Table)
    (input : WriterInput) (text : String) (accepted : record.table = .ok declared)
    (described : declared.Describes table) (recordNothing : NamesNothing record.attributes)
    (fieldsNothing : ∀ field ∈ record.fields, NamesNothing field.attributes)
    (identifier : Source.IsIdentifier record.name)
    (identifiers : ∀ field ∈ record.fields, ∀ name, field.name = some name →
      Source.IsIdentifier name ∧ IsAscii name)
    (about : input.IsStatement table) (written : (input.write .mysql).toText = .ok text) :
    Mysql.OpensComment text ↔
      IsRaw record.name ∨ ∃ column ∈ input.namedColumns, IsRaw column.field := by
  have tableName := name_of_table accepted recordNothing described
  obtain ⟨plainRecord, recordMark⟩ := isPlainIdentifier_of_isIdentifier identifier
  have plainColumn : ∀ column ∈ table.columns,
      Mysql.IsPlainIdentifier column.name ∧ ('#' ∈ column.name.toList ↔ IsRaw column.field) := by
    intro column member
    obtain ⟨field, own, named, lowered⟩ := column_of_table accepted fieldsNothing described member
    obtain ⟨fieldIdentifier, ascii⟩ := identifiers field own column.field named
    obtain ⟨plainField, fieldMark⟩ := isPlainIdentifier_of_isIdentifier fieldIdentifier
    rw [lowered, ← fieldMark]
    exact isPlainIdentifier_lowerCase ascii plainField
  have clean := Mysql.cleanBut_statement about (tableName ▸ plainRecord)
    (fun column member => (plainColumn column member).1) written
  rw [clean.opensComment_iff]
  simp only [List.mem_cons, List.mem_map]
  constructor
  · rintro ⟨name, rfl | ⟨column, named, rfl⟩, mark⟩
    · rw [tableName] at mark
      exact .inl (recordMark.mp mark)
    · have member := mem_columns_of_mem_namedColumns about named
      exact .inr ⟨column, named, (plainColumn column member).2.mp mark⟩
  · rintro (raw | ⟨column, named, raw⟩)
    · exact ⟨table.name, .inl rfl, tableName ▸ recordMark.mpr raw⟩
    · have member := mem_columns_of_mem_namedColumns about named
      exact ⟨column.name, .inr ⟨column, named, rfl⟩, (plainColumn column member).2.mpr raw⟩

/-- A record `T` with the key `id` and a field `r#type`, which needs the mark. -/
def markedRecord : Record where
  name := "T"
  attributes := []
  fields :=
    [⟨some "id", [.word "i32"], false, [.listed [⟨[.word "primary_key"], true⟩]]⟩,
      ⟨some "r#type", [.word "String"], false, []⟩]

/-- What this record declares. -/
def markedDeclaration : DeclaredTable where
  name := "T"
  columns :=
    [⟨"id", [.word "i32"], "id", none, true, false, false, true⟩,
      ⟨"r#type", [.word "String"], "r#type", none, false, false, false, true⟩]

/-- The UPDATE that stores such a record with the key 1. -/
def markedUpdate : WriterInput :=
  .update
    { name := "T"
      columns :=
        [{ field := "id", name := "id", primaryKey := true
           type := some (.required (.integer .int32)) },
          { field := "r#type", name := "r#type", type := some (.required .text) }] }
    [.integer .int32 (some ⟨1, by decide, by decide⟩), .text (some "x")]

theorem opensComment_marked :
    (markedUpdate.write .mysql).toText = .ok "UPDATE T SET id=1,r#type='x' WHERE id=1" ∧
      Mysql.OpensComment "UPDATE T SET id=1,r#type='x' WHERE id=1" := by
  have written : (markedUpdate.write .mysql).toText =
      .ok "UPDATE T SET id=1,r#type='x' WHERE id=1" := by rfl
  have identifiers : ∀ field ∈ markedRecord.fields, ∀ name, field.name = some name →
      Source.IsIdentifier name ∧ IsAscii name := by
    rw [markedRecord, List.forall_mem_cons, List.forall_mem_singleton]
    constructor
    · rintro name ⟨⟩
      exact ⟨rfl, List.all_iff_forall_prop.mp rfl⟩
    · rintro name ⟨⟩
      exact ⟨rfl, List.all_iff_forall_prop.mp rfl⟩
  have accepted : markedRecord.table = .ok markedDeclaration := by rfl
  have opens := opensComment_iff_isRaw markedRecord markedDeclaration _ markedUpdate _ accepted
    (describes_of_toTable? (by rfl)) (by unfold NamesNothing; decide)
    (by unfold NamesNothing; decide) rfl identifiers rfl written
  refine ⟨written, opens.mpr (.inr ⟨_, List.mem_of_getElem? (show _[1]? = some _ from rfl), ?_⟩)⟩
  exact ⟨"type".toList, rfl⟩

end Declaration

end SqlRecords
